import ServiceGraph.Proofs.Text.Quoted
import ServiceGraph.Syntax.Cursor
import ServiceGraph.Text.Lines

/-!
Scanning a text that was put together from tokens.

* A token of a scanned text stands in the text between its two marks (`Token.slice_of_mem_scan`).
* `Token.Lexes` says that a piece of text is cut into given tokens, whatever stands before it and if a
  given text stands behind. There is a rule for every sort of token and one for putting pieces together.

What stands behind matters to names and numbers only: they have to be followed by a character that is no
part of either (`Token.breaks`).
-/

namespace ServiceGraph

open Text

/-! ## 1. Tokens and their places -/

namespace Mark

theorem offset_step (m : Mark) (c : Char) : (m.step c).offset = m.offset + c.utf8Size := by
  unfold step
  split
  · subst c
    rfl
  · rfl

theorem offset_after : ∀ (s : List Char) (m : Mark), (m.after s).offset = m.offset + byteLength s
  | [], m => by simp [byteLength]
  | c :: rest, m => by
      rw [after_cons, offset_after rest, offset_step]
      simp [byteLength, Nat.add_assoc]

end Mark

namespace Syntax

namespace Reader

/-- A slice behind a piece of text does not see the piece. -/
theorem sliceFrom_append : ∀ (front s : List Char) (offset stop : Nat),
    offset + byteLength front ≤ stop →
      sliceFrom (offset + byteLength front) stop offset (front ++ s) =
        sliceFrom (offset + byteLength front) stop (offset + byteLength front) s
  | [], s, offset, stop, _ => by simp [byteLength]
  | c :: rest, s, offset, stop, h => by
      have hlength : byteLength (c :: rest) = c.utf8Size + byteLength rest := rfl
      have hpos := c.utf8Size_pos
      rw [hlength, ← Nat.add_assoc] at h ⊢
      rw [List.cons_append, sliceFrom, if_neg (by omega), if_pos (by omega)]
      exact sliceFrom_append rest s (offset + c.utf8Size) stop h

/-- The slice that ends where a piece of text does. -/
theorem sliceFrom_self {start : Nat} : ∀ (text s : List Char) (offset : Nat), start ≤ offset →
    sliceFrom start (offset + byteLength text) offset (text ++ s) = text
  | [], s, offset, _ => by
      cases s with
      | nil => rfl
      | cons c rest => simp [sliceFrom, byteLength]
  | c :: rest, s, offset, h => by
      have hlength : byteLength (c :: rest) = c.utf8Size + byteLength rest := rfl
      have hpos := c.utf8Size_pos
      rw [hlength, ← Nat.add_assoc, List.cons_append, sliceFrom, if_neg (by omega), if_neg (by omega),
        sliceFrom_self rest s (offset + c.utf8Size) (by omega)]

end Reader

namespace Token

open Reader

/-- The text of a token stands in the source between its marks. -/
def StandsIn (source : List Char) (t : Token) : Prop :=
  sliceFrom t.start.offset t.stop.offset 0 source = t.text.toList

theorem standsIn_of_mem_scanFrom (place : Mark) (previous : Option Token) (lineBreak : Bool)
    (s : List Char) (front : List Char) (hplace : place.offset = byteLength front) :
    ∀ t ∈ scanFrom place previous lineBreak s, t.StandsIn (front ++ s) := by
  have hbytes : ∀ a b : List Char, byteLength (a ++ b) = byteLength a + byteLength b := by
    intro a b
    induction a with
    | nil => simp [byteLength]
    | cons c rest ih => simpa [byteLength, Nat.add_assoc] using ih
  fun_induction scanFrom place previous lineBreak s generalizing front with
  | case1 => simp
  | case2 place previous lineBreak c rest hblank ih =>
    have h := ih (front ++ [c]) (by
      rw [Mark.offset_step, hplace, hbytes]
      simp [byteLength])
    rwa [List.append_assoc] at h
  | case3 place previous lineBreak c rest hblank m text token ih =>
    intro t ht
    have hsplit : c :: rest = text ++ rest.drop m.2 := by
      rw [List.cons_append, List.take_append_drop]
    rcases List.mem_cons.mp ht with rfl | ht
    · have hstart : place.offset = 0 + byteLength front := by rw [hplace, Nat.zero_add]
      change sliceFrom place.offset (place.after text).offset 0 (front ++ c :: rest) = _
      rw [hsplit, Mark.offset_after, hstart, sliceFrom_append _ _ _ _ (by omega),
        sliceFrom_self _ _ _ (Nat.le_refl _), String.toList_ofList]
    · have h := ih (front ++ text) (by
        change (place.after text).offset = _
        rw [Mark.offset_after, hplace, hbytes]) t ht
      rwa [List.append_assoc, ← hsplit] at h

/-- Every token of a text stands in it. -/
theorem slice_of_mem_scan {source : List Char} {t : Token} (h : t ∈ scan source) :
    t.StandsIn source :=
  standsIn_of_mem_scanFrom .origin none false source [] rfl t h

/-! ## 2. Pieces of text -/

/-- What a token is, apart from its place. -/
abbrev Signature := TokenKind × String

def signature (t : Token) : Signature := (t.kind, t.text)

/-- A piece of text is cut into tokens of the given signatures if `tail` stands behind it. -/
def Lexes (s : List Char) (found : List Signature) (tail : List Char) : Prop :=
  ∀ place previous lineBreak, ∃ ts place' previous' lineBreak',
    scanFrom place previous lineBreak (s ++ tail) = ts ++ scanFrom place' previous' lineBreak' tail ∧
      ts.map signature = found

variable {s s' tail : List Char} {found found' : List Signature}

theorem lexes_nil : Lexes [] [] tail :=
  fun place previous lineBreak => ⟨[], place, previous, lineBreak, rfl, rfl⟩

theorem Lexes.append (h : Lexes s found (s' ++ tail)) (h' : Lexes s' found' tail) :
    Lexes (s ++ s') (found ++ found') tail := by
  intro place previous lineBreak
  obtain ⟨ts, place₁, previous₁, lineBreak₁, hscan, hts⟩ := h place previous lineBreak
  obtain ⟨ts', place₂, previous₂, lineBreak₂, hscan', hts'⟩ := h' place₁ previous₁ lineBreak₁
  refine ⟨ts ++ ts', place₂, previous₂, lineBreak₂, ?_, ?_⟩
  · rw [List.append_assoc, hscan, hscan', List.append_assoc]
  · rw [List.map_append, hts, hts']

/-- The tokens of a whole text. -/
theorem Lexes.scan (h : Lexes s found []) : (scan s).map signature = found := by
  obtain ⟨ts, place, previous, lineBreak, hscan, hts⟩ := h .origin none false
  rw [List.append_nil] at hscan
  rw [Token.scan, hscan]
  simpa [scanFrom] using hts

/-! ## 3. Rules -/

theorem lexes_blank {c : Char} (h : isBlank c = true) : Lexes [c] [] tail := by
  intro place previous lineBreak
  refine ⟨[], place.step c, previous, lineBreak || c = '\n', ?_, rfl⟩
  rw [List.cons_append, scanFrom, if_pos h]
  rfl

theorem lexes_blanks : ∀ {s : List Char}, (∀ c ∈ s, isBlank c = true) → Lexes s [] tail
  | [], _ => lexes_nil
  | c :: _, h =>
    (lexes_blank (h c List.mem_cons_self)).append
      (lexes_blanks fun d hd => h d (List.mem_cons_of_mem _ hd))

/-- A token, from what is measured at its first character. -/
theorem lexes_token {kind : TokenKind} {c : Char} {rest : List Char} (hblank : isBlank c = false)
    (hmeasure : ∀ previous, measure previous c (rest ++ tail) = (kind, rest.length)) :
    Lexes (c :: rest) [(kind, String.ofList (c :: rest))] tail := by
  intro place previous lineBreak
  have htake : (rest ++ tail).take (measure previous c (rest ++ tail)).2 = rest := by
    rw [hmeasure, List.take_left]
  have hdrop : (rest ++ tail).drop (measure previous c (rest ++ tail)).2 = tail := by
    rw [hmeasure, List.drop_left]
  rw [List.cons_append, scanFrom, if_neg (by simp [hblank])]
  dsimp only
  rw [hdrop]
  refine ⟨[_], _, _, _, rfl, ?_⟩
  simp only [List.map_cons, List.map_nil, signature, htake]
  rw [hmeasure]

/-- Characters that end a name or a number. -/
def isBreak (c : Char) : Bool :=
  [' ', '\n', ';', ',', ':', '?', '(', ')', '[', ']', '\x7b', '\x7d', '<', '>', '|'].contains c

/-- A text in front of which a name or a number may end. -/
def Breaks (tail : List Char) : Prop := ∀ c ∈ tail.head?, isBreak c = true

theorem breaks_cons {c : Char} (h : isBreak c = true) (rest : List Char) : Breaks (c :: rest) := by
  simpa [Breaks] using h

theorem not_isNamePart_of_isBreak {c : Char} (h : isBreak c = true) : isNamePart c = false := by
  have hall : [' ', '\n', ';', ',', ':', '?', '(', ')', '[', ']', '\x7b', '\x7d', '<', '>', '|'].all
      (!isNamePart ·) = true := by decide
  simpa using List.all_eq_true.mp hall c (List.contains_iff_mem.mp h)

/-- What consists of characters of a sort is taken, up to a character of another sort. -/
theorem takeWhile_append_of_stop {p : Char → Bool} :
    ∀ {s tail : List Char}, s.all p = true → (∀ c ∈ tail.head?, p c = false) →
      (s ++ tail).takeWhile p = s
  | [], [], _, _ => rfl
  | [], c :: _, _, h => by simp [h c (by simp)]
  | c :: rest, tail, hs, h => by
      simp only [List.all_cons, Bool.and_eq_true] at hs
      rw [List.cons_append, List.takeWhile_cons_of_pos hs.1, takeWhile_append_of_stop hs.2 h]

theorem measure_name {c : Char} (h : isNameStart c = true) (previous : Option Token)
    (rest : List Char) : measure previous c rest = (.name, nameLength rest) := by
  have hne : ∀ d : Char, isNameStart d = false → c ≠ d := by
    rintro d hd rfl
    simp [hd] at h
  have hdigit : c.isDigit = false := by
    have := h
    simp only [isNameStart, Bool.and_eq_true, Bool.not_eq_true'] at this
    exact this.2
  unfold measure
  dsimp only
  rw [if_neg (hne '/' (by decide)),
    if_neg (by simpa using ⟨hne '"' (by decide), hne '\'' (by decide)⟩), if_neg (hne '\x60' (by decide)),
    if_neg (hne '#' (by decide)),
    if_neg (by simp [hdigit, hne '.' (by decide)]), if_pos h]

theorem not_isBlank_of_isNamePart {c : Char} (h : isNamePart c = true) : isBlank c = false := by
  by_cases hascii : c.toNat < 128
  · have hall : ∀ n : Fin 128, isNamePart (Char.ofNat n.val) = true →
        isBlank (Char.ofNat n.val) = false := by decide
    have hc := hall ⟨c.toNat, hascii⟩
    simp only [Char.ofNat_toNat] at hc
    exact hc h
  · simpa [isNamePart, hascii] using h

/-- A name. -/
theorem lexes_name (h : isName s = true) (hbreaks : Breaks tail) :
    Lexes s [(.name, String.ofList s)] tail := by
  cases s with
  | nil => simp [isName] at h
  | cons c rest =>
    simp only [isName, Bool.and_eq_true] at h
    have hpart : isNamePart c = true := by
      have := h.1
      simp only [isNameStart, Bool.and_eq_true] at this
      exact this.1
    apply lexes_token (not_isBlank_of_isNamePart hpart)
    intro previous
    rw [measure_name h.1, nameLength, takeWhile_append_of_stop h.2]
    exact fun d hd => not_isNamePart_of_isBreak (hbreaks d hd)

/-- A quoted text. -/
theorem lexes_quote (text : String) : Lexes (quote text).toList [(.string, quote text)] tail := by
  unfold quote
  rw [String.toList_ofList, List.cons_append]
  apply lexes_token (by decide)
  intro previous
  have hlength := stringLength?_quoteBody text.toList tail
  rw [List.append_assoc, List.cons_append, List.nil_append]
  simp [measure, hlength]

/-- A piece of punctuation that is the same whatever follows. -/
theorem lexes_punctuation {c : Char}
    (h : ['\x7b', '\x7d', '(', ')', '[', ']', ';', ',', '>', ':'].contains c = true) :
    Lexes [c] [(.punctuation, String.singleton c)] tail := by
  have hall : ∀ d ∈ ['\x7b', '\x7d', '(', ')', '[', ']', ';', ',', '>', ':'], isBlank d = false ∧
      ∀ previous, measure previous d tail = (.punctuation, 0) := by
    simp [measure, punctuationLength?, longPunctuation, isNameStart, isNamePart, isBlank]
  obtain ⟨hblank, hmeasure⟩ := hall c (List.contains_iff_mem.mp h)
  exact lexes_token hblank hmeasure

/-- A piece of punctuation that what follows does not make longer. -/
theorem lexes_operator {c d : Char} {rest : List Char} (hc : ['?', '-', '|', '<'].contains c = true)
    (hd : ['?', '-', '|', '<', '=', '.'].contains d = false) :
    Lexes [c] [(.punctuation, String.singleton c)] (d :: rest) := by
  simp only [List.contains_eq_mem, List.mem_cons, List.not_mem_nil, or_false, decide_eq_false_iff_not,
    not_or] at hd
  obtain ⟨h₁, h₂, h₃, h₄, h₅, h₆⟩ := hd
  have hall : ∀ c ∈ ['?', '-', '|', '<'], isBlank c = false ∧
      ∀ previous, measure previous c (d :: rest) = (.punctuation, 0) := by
    simp [measure, punctuationLength?, longPunctuation, isNameStart, isNamePart, isBlank, Ne.symm h₁,
      Ne.symm h₂, Ne.symm h₃, Ne.symm h₅, h₆]
  obtain ⟨hblank, hmeasure⟩ := hall c (List.contains_iff_mem.mp hc)
  exact lexes_token hblank hmeasure

/-- A line comment up to the end of its line. -/
theorem lexes_lineComment {body rest : List Char} (h : body.all (!isLineEnd ·) = true) :
    Lexes ('/' :: '/' :: body) [(.comment, String.ofList ('/' :: '/' :: body))] ('\n' :: rest) := by
  apply lexes_token (by decide)
  intro previous
  have hlength : ('/' :: (body ++ '\n' :: rest)).takeWhile (!isLineEnd ·) = '/' :: body := by
    rw [List.takeWhile_cons_of_pos (by decide), takeWhile_append_of_stop h (by simp [isLineEnd])]
  rw [List.cons_append]
  simp [measure, lineCommentLength, hlength]

/-- More text behind the end of a block comment changes nothing. -/
theorem blockCommentLength?_append {body : List Char} {n : Nat}
    (h : blockCommentLength? body = some n) (tail : List Char) :
    blockCommentLength? (body ++ tail) = some n := by
  fun_induction blockCommentLength? body generalizing n with
  | case1 rest => simpa [blockCommentLength?] using h
  | case2 c rest hclose ih =>
    obtain ⟨m, hm, rfl⟩ := Option.map_eq_some_iff.mp h
    have hshort := ih hm
    rw [List.cons_append]
    unfold blockCommentLength?
    split
    · rename_i others heq
      obtain ⟨hstar, hslash⟩ := List.cons.inj heq
      cases rest with
      | nil => simp [blockCommentLength?] at hm
      | cons d rest => exact (hclose rest hstar (by rw [(List.cons.inj hslash).1])).elim
    · rename_i heq
      cases heq
      rw [hshort]
      rfl
    · simp_all
  | case3 => cases h

/-- A block comment. -/
theorem lexes_blockComment {body : List Char} (h : blockCommentLength? body = some body.length) :
    Lexes ('/' :: '*' :: body) [(.comment, String.ofList ('/' :: '*' :: body))] tail := by
  apply lexes_token (by decide)
  intro previous
  rw [List.cons_append]
  simp [measure, blockCommentLength?_append h tail]

/-! ## 4. Numbers -/

/-- A fraction, with its point; or nothing. -/
inductive IsFraction : List Char → Prop
  | none : IsFraction []
  | some {digits : List Char} : digits.all Char.isDigit = true → IsFraction ('.' :: digits)

/-- An exponent, with its letter; or nothing. -/
inductive IsExponent : List Char → Prop
  | none : IsExponent []
  | signed {letter sign digit : Char} {digits : List Char} : (letter = 'e' ∨ letter = 'E') →
      (sign = '+' ∨ sign = '-') → (digit :: digits).all Char.isDigit = true →
      IsExponent (letter :: sign :: digit :: digits)
  | plain {letter digit : Char} {digits : List Char} : (letter = 'e' ∨ letter = 'E') →
      (digit :: digits).all Char.isDigit = true → IsExponent (letter :: digit :: digits)

/-- The texts that JSON allows for numbers that are not negative. -/
structure IsNumeral (s : List Char) : Prop where
  parts : ∃ whole fraction exponent, s = whole ++ (fraction ++ exponent) ∧ whole ≠ [] ∧
    whole.all Char.isDigit = true ∧ (∀ rest, whole = '0' :: rest → rest = []) ∧ IsFraction fraction ∧
    IsExponent exponent

/-- A break ends a number, and so does the letter of an exponent the digits in front of it. -/
theorem not_digit_of_head {exponent : List Char} (h : IsExponent exponent) (hbreaks : Breaks tail) :
    ∀ c ∈ (exponent ++ tail).head?, isDigitOrBreak c = false ∧ c ≠ 'n' ∧ c ≠ '.' ∧
      ¬ (c = 'x' ∨ c = 'X' ∨ c = 'o' ∨ c = 'O' ∨ c = 'b' ∨ c = 'B') := by
  have hbreak : [' ', '\n', ';', ',', ':', '?', '(', ')', '[', ']', '\x7b', '\x7d', '<', '>', '|'].all
      (fun d => decide (isDigitOrBreak d = false ∧ d ≠ 'n' ∧ d ≠ '.' ∧
        ¬ (d = 'x' ∨ d = 'X' ∨ d = 'o' ∨ d = 'O' ∨ d = 'b' ∨ d = 'B'))) = true := by decide
  intro c hc
  cases h with
  | none =>
    exact of_decide_eq_true (List.all_eq_true.mp hbreak c (List.contains_iff_mem.mp (hbreaks c hc)))
  | signed hletter _ _ =>
    cases hc
    rcases hletter with rfl | rfl <;> decide
  | plain hletter _ =>
    cases hc
    rcases hletter with rfl | rfl <;> decide

theorem digitsOrBreaks_of_digits {digits : List Char} (h : digits.all Char.isDigit = true) :
    digits.all isDigitOrBreak = true := by
  rw [List.all_eq_true] at h ⊢
  exact fun c hc => by simp [isDigitOrBreak, h c hc]

theorem exponentLength_append {exponent : List Char} (h : IsExponent exponent)
    (hbreaks : Breaks tail) : exponentLength (exponent ++ tail) = exponent.length := by
  have hstop : ∀ c ∈ tail.head?, isDigitOrBreak c = false := fun c hc =>
    (not_digit_of_head .none hbreaks c hc).1
  cases h with
  | none =>
    have hletter : ∀ c ∈ tail.head?, ¬ (c = 'e' ∨ c = 'E') := by
      intro c hc hletter
      have hbreak := hbreaks c hc
      rcases hletter with rfl | rfl <;> simp [isBreak] at hbreak
    rw [List.nil_append]
    unfold exponentLength
    split
    · rename_i e _ _ _
      have he := hletter e (by simp)
      simp [he]
    · rename_i e _
      have he := hletter e (by simp)
      simp [he]
    · rfl
  | @signed letter sign digit digits hletter hsign hdigits =>
    have hdigit : digit.isDigit = true := (List.all_eq_true.mp hdigits) digit List.mem_cons_self
    have hrest : digits.all Char.isDigit = true := by
      simp only [List.all_cons, Bool.and_eq_true] at hdigits
      exact hdigits.2
    have htake := takeWhile_append_of_stop (digitsOrBreaks_of_digits hrest) hstop
    simp only [List.cons_append, exponentLength, htake]
    simp [hletter, hsign, hdigit]
    omega
  | @plain letter digit digits hletter hdigits =>
    have hdigit : digit.isDigit = true := (List.all_eq_true.mp hdigits) digit List.mem_cons_self
    have hsign : ¬ (digit = '+' ∨ digit = '-') := by
      rintro (rfl | rfl) <;> simp [Char.isDigit] at hdigit
    have hrest : digits.all Char.isDigit = true := by
      simp only [List.all_cons, Bool.and_eq_true] at hdigits
      exact hdigits.2
    have htake := takeWhile_append_of_stop (digitsOrBreaks_of_digits hrest) hstop
    cases hall : digits ++ tail with
    | nil =>
      obtain ⟨rfl, rfl⟩ := List.append_eq_nil_iff.mp hall
      simp [exponentLength, hletter, hdigit]
    | cons d rest =>
      rw [List.cons_append, List.cons_append, hall]
      rw [hall] at htake
      simp [exponentLength, hletter, hsign, hdigit, htake]
      omega

theorem decimalLength_append {whole fraction exponent : List Char}
    (hwhole : whole.all Char.isDigit = true) (hfraction : IsFraction fraction)
    (hexponent : IsExponent exponent) (hbreaks : Breaks tail) :
    numberLength.decimal (whole ++ (fraction ++ exponent) ++ tail) =
      (whole ++ (fraction ++ exponent)).length := by
  have hstop := not_digit_of_head hexponent hbreaks
  cases hfraction with
  | none =>
    have htake : (whole ++ (exponent ++ tail)).takeWhile isDigitOrBreak = whole :=
      takeWhile_append_of_stop (digitsOrBreaks_of_digits hwhole) fun c hc => (hstop c hc).1
    rw [List.nil_append, List.append_assoc, numberLength.decimal]
    dsimp only
    rw [htake, List.drop_left]
    split
    · rename_i heq
      exact ((hstop 'n' (by simp [heq])).2.1 rfl).elim
    · rename_i heq
      exact ((hstop '.' (by simp [heq])).2.2.1 rfl).elim
    · rw [exponentLength_append hexponent hbreaks, List.length_append]
  | @some digits hdigits =>
    have htake : (whole ++ ('.' :: (digits ++ (exponent ++ tail)))).takeWhile isDigitOrBreak = whole :=
      takeWhile_append_of_stop (digitsOrBreaks_of_digits hwhole) (by simp [isDigitOrBreak])
    have hplaces : (digits ++ (exponent ++ tail)).takeWhile isDigitOrBreak = digits :=
      takeWhile_append_of_stop (digitsOrBreaks_of_digits hdigits) fun c hc => (hstop c hc).1
    rw [List.append_assoc, List.cons_append, List.cons_append, List.append_assoc,
      numberLength.decimal]
    dsimp only
    rw [htake, List.drop_left]
    simp only [hplaces, List.drop_left, exponentLength_append hexponent hbreaks, List.length_append,
      List.length_cons]
    omega

/-- A number is measured as a whole. -/
theorem numberLength_append (h : IsNumeral s) (hbreaks : Breaks tail) :
    numberLength (s ++ tail) = s.length := by
  obtain ⟨whole, fraction, exponent, rfl, hne, hwhole, hzero, hfraction, hexponent⟩ := h.parts
  have hdecimal := decimalLength_append hwhole hfraction hexponent hbreaks
  unfold numberLength
  split
  · rename_i base rest heq
    rw [if_neg, hdecimal]
    cases whole with
    | nil => exact absurd rfl hne
    | cons c others =>
      obtain ⟨rfl, hrest⟩ := List.cons.inj heq
      obtain rfl := hzero others rfl
      cases hfraction with
      | none => simpa [or_assoc] using (not_digit_of_head hexponent hbreaks base (by simp_all)).2.2.2
      | some _ =>
        obtain ⟨rfl, -⟩ := List.cons.inj hrest
        decide
  · exact hdecimal

theorem measure_number {c : Char} (h : c.isDigit = true) (previous : Option Token)
    (rest : List Char) : measure previous c rest = (.number, numberLength (c :: rest) - 1) := by
  have hne : ∀ d : Char, d.isDigit = false → c ≠ d := by
    rintro d hd rfl
    simp [hd] at h
  unfold measure
  dsimp only
  rw [if_neg (hne '/' (by decide)),
    if_neg (by simpa using ⟨hne '"' (by decide), hne '\'' (by decide)⟩), if_neg (hne '\x60' (by decide)),
    if_neg (hne '#' (by decide)), if_pos (by simp [h])]

/-- A number. -/
theorem lexes_number (h : IsNumeral s) (hbreaks : Breaks tail) :
    Lexes s [(.number, String.ofList s)] tail := by
  have hlength := numberLength_append h hbreaks
  obtain ⟨whole, fraction, exponent, heq, hne, hwhole, -⟩ := h.parts
  cases whole with
  | nil => exact absurd rfl hne
  | cons c others =>
    have hdigit : c.isDigit = true := (List.all_eq_true.mp hwhole) c List.mem_cons_self
    rw [List.cons_append] at heq
    subst heq
    apply lexes_token
    · apply not_isBlank_of_isNamePart
      have hascii : c.toNat < 128 := by
        simp only [Char.isDigit, Bool.and_eq_true, decide_eq_true_eq] at hdigit
        have hle := UInt32.le_iff_toNat_le.mp hdigit.2
        exact Nat.lt_of_le_of_lt hle (by decide)
      simp [isNamePart, hascii, Char.isAlphanum, hdigit]
    · intro previous
      rw [measure_number hdigit]
      rw [List.cons_append] at hlength
      rw [hlength]
      rfl

end Token

end Syntax

end ServiceGraph
