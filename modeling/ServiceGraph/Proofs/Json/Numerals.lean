import Mathlib.Data.List.TakeDrop
import Mathlib.Data.List.TakeWhile
import ServiceGraph.Annotation.Comment
import ServiceGraph.Json.Writer
import ServiceGraph.Proofs.Syntax.Scanning

/-!
The texts of numbers.

Whatever JSON reads as a number is a sign and a numeral, as the scanner knows them, and the text of a number has
no blanks in it. So a number that is read back from its text is written as a sign and a numeral
(`Json.isSignedNumeral_of_parse?`), and so is a bound (`Annotation.isSignedNumeral_of_number?`).
-/

namespace ServiceGraph

open Syntax.Token

namespace Json

/-! ## 1. What is read is a numeral -/

theorem readWhole_eq_some {s whole rest : List Char} (h : readWhole s = some (whole, rest)) :
    s = whole ++ rest ∧ whole ≠ [] ∧ whole.all Char.isDigit = true ∧
      ∀ others, whole = '0' :: others → others = [] := by
  unfold readWhole spanDigits at h
  rw [List.span_eq_takeWhile_dropWhile] at h
  split at h
  · cases h
  · cases h
  · rename_i digits rest' hne hzero heq
    obtain ⟨rfl, rfl⟩ := Prod.mk.inj (Option.some.inj h)
    obtain ⟨hdigits, hrest⟩ := Prod.mk.inj heq
    refine ⟨by rw [← hdigits, ← hrest, List.takeWhile_append_dropWhile], ?_, ?_, ?_⟩
    · rintro rfl
      exact hne rfl
    · rw [← hdigits]
      exact List.all_takeWhile
    · rintro others rfl
      cases others with
      | nil => rfl
      | cons c others => exact (hzero c others rfl).elim

theorem readFraction_eq_some {s rest : List Char} {digits? : Option (List Char)}
    (h : readFraction s = some (digits?, rest)) : ∃ fraction, s = fraction ++ rest ∧ IsFraction fraction := by
  unfold readFraction spanDigits at h
  split at h
  · rename_i rest'
    rw [List.span_eq_takeWhile_dropWhile] at h
    split at h
    · cases h
    · rename_i digits rest'' hne heq
      obtain ⟨rfl, rfl⟩ := Prod.mk.inj (Option.some.inj h)
      obtain ⟨hdigits, hrest⟩ := Prod.mk.inj heq
      refine ⟨'.' :: digits, ?_, .some (hdigits ▸ List.all_takeWhile)⟩
      rw [List.cons_append, ← hdigits, ← hrest, List.takeWhile_append_dropWhile]
  · obtain ⟨rfl, rfl⟩ := Prod.mk.inj (Option.some.inj h)
    exact ⟨[], rfl, .none⟩

/-- What is read behind the letter of an exponent. -/
theorem readExponent_letter {s rest : List Char} {exponent? : Option Int}
    (h : readExponent ('e' :: s) = some (exponent?, rest)) :
    ∃ tail, s = tail ++ rest ∧ ∀ letter, letter = 'e' ∨ letter = 'E' → IsExponent (letter :: tail) := by
  have hsplit : ∀ t digits left : List Char, digits ≠ [] →
      (t.takeWhile Char.isDigit, t.dropWhile Char.isDigit) = (digits, left) →
      t = digits ++ left ∧ digits.all Char.isDigit = true := by
    intro t digits left _ heq
    obtain ⟨hdigits, hleft⟩ := Prod.mk.inj heq
    exact ⟨by rw [← hdigits, ← hleft, List.takeWhile_append_dropWhile], hdigits ▸ List.all_takeWhile⟩
  simp only [readExponent, spanDigits, List.span_eq_takeWhile_dropWhile] at h
  split at h
  · cases h
  · rename_i digits left hne heq
    obtain ⟨-, rfl⟩ := Prod.mk.inj (Option.some.inj h)
    obtain ⟨d, more, rfl⟩ := List.exists_cons_of_ne_nil hne
    split at heq
    · rename_i r
      obtain ⟨rfl, hall⟩ := hsplit r _ _ hne heq
      exact ⟨'+' :: d :: more, rfl, fun letter hletter => .signed hletter (.inl rfl) hall⟩
    · rename_i r
      obtain ⟨rfl, hall⟩ := hsplit r _ _ hne heq
      exact ⟨'-' :: d :: more, rfl, fun letter hletter => .signed hletter (.inr rfl) hall⟩
    · obtain ⟨rfl, hall⟩ := hsplit s _ _ hne heq
      exact ⟨d :: more, rfl, fun letter hletter => .plain hletter hall⟩

theorem readExponent_eq_some {s rest : List Char} {exponent? : Option Int}
    (h : readExponent s = some (exponent?, rest)) : ∃ exponent, s = exponent ++ rest ∧ IsExponent exponent := by
  by_cases hletter : ∃ letter t, s = letter :: t ∧ (letter = 'e' ∨ letter = 'E')
  · obtain ⟨letter, t, rfl, hletter⟩ := hletter
    have heq : readExponent (letter :: t) = readExponent ('e' :: t) := by
      rcases hletter with rfl | rfl <;> rfl
    rw [heq] at h
    obtain ⟨tail, rfl, hexponent⟩ := readExponent_letter h
    exact ⟨letter :: tail, rfl, hexponent letter hletter⟩
  · unfold readExponent at h
    split at h
    · exact (hletter ⟨_, _, rfl, .inl rfl⟩).elim
    · exact (hletter ⟨_, _, rfl, .inr rfl⟩).elim
    · obtain ⟨-, rfl⟩ := Prod.mk.inj (Option.some.inj h)
      exact ⟨[], rfl, .none⟩

/-- The parts of a number make up a numeral. -/
theorem isNumeral_of_parts {s s₁ s₂ rest whole : List Char} {digits? : Option (List Char)}
    {exponent? : Option Int} (hwhole : readWhole s = some (whole, s₁))
    (hfraction : readFraction s₁ = some (digits?, s₂))
    (hexponent : readExponent s₂ = some (exponent?, rest)) :
    ∃ digits, s = digits ++ rest ∧ IsNumeral digits := by
  obtain ⟨rfl, hne, hdigits, hzero⟩ := readWhole_eq_some hwhole
  obtain ⟨fraction, rfl, hisFraction⟩ := readFraction_eq_some hfraction
  obtain ⟨exponent, rfl, hisExponent⟩ := readExponent_eq_some hexponent
  exact ⟨whole ++ (fraction ++ exponent), by simp only [List.append_assoc],
    whole, fraction, exponent, rfl, hne, hdigits, hzero, hisFraction, hisExponent⟩

/-- A numeral, perhaps with a sign in front. -/
def IsSignedNumeral (s : List Char) : Prop := IsNumeral s ∨ ∃ digits, s = '-' :: digits ∧ IsNumeral digits

/-- What stands behind a sign that may have been taken off. -/
theorem isSignedNumeral_of_sign {s s' rest : List Char} {negative : Bool}
    (hsign : (match s with | '-' :: t => (true, t) | _ => (false, s)) = (negative, s'))
    (h : ∃ digits, s' = digits ++ rest ∧ IsNumeral digits) :
    ∃ text, s = text ++ rest ∧ IsSignedNumeral text := by
  obtain ⟨digits, rfl, hdigits⟩ := h
  split at hsign
  · obtain ⟨-, rfl⟩ := Prod.mk.inj hsign
    exact ⟨'-' :: digits, rfl, .inr ⟨digits, rfl, hdigits⟩⟩
  · obtain ⟨-, rfl⟩ := Prod.mk.inj hsign
    exact ⟨digits, rfl, .inl hdigits⟩

theorem readNumber_eq_some {s rest : List Char} {n : Number} (h : readNumber s = some (n, rest)) :
    ∃ text, s = text ++ rest ∧ IsSignedNumeral text := by
  unfold readNumber at h
  split at h
  rename_i negative s' hsign
  apply isSignedNumeral_of_sign hsign
  obtain ⟨⟨whole, s₁⟩, hwhole, h⟩ := Option.bind_eq_some_iff.mp h
  obtain ⟨⟨fraction, s₂⟩, hfraction, h⟩ := Option.bind_eq_some_iff.mp h
  obtain ⟨⟨exponent, s₃⟩, hexponent, h⟩ := Option.bind_eq_some_iff.mp h
  obtain ⟨value, -, h⟩ := Option.bind_eq_some_iff.mp h
  obtain ⟨-, rfl⟩ := Prod.mk.inj (Option.some.inj h)
  exact isNumeral_of_parts hwhole hfraction hexponent

end Json

/-! ## 2. Visible characters -/

/-- Whether a character is one that leaves ink, in ASCII. -/
def Text.isVisible (c : Char) : Bool := 32 < c.toNat && c.toNat < 127

namespace Json

/-- Whether a numeral may have a character. -/
def isNumberPart (c : Char) : Bool := c.isDigit || ['+', '-', '.', 'e', 'E'].contains c

theorem isVisible_of_isDigit {c : Char} (h : c.isDigit = true) : Text.isVisible c = true := by
  simp only [Char.isDigit, Bool.and_eq_true, decide_eq_true_eq] at h
  have hlow : 48 ≤ c.toNat := UInt32.le_iff_toNat_le.mp h.1
  have hhigh : c.toNat ≤ 57 := UInt32.le_iff_toNat_le.mp h.2
  simp only [Text.isVisible, Bool.and_eq_true, decide_eq_true_eq]
  omega

theorem isVisible_of_isNumberPart {c : Char} (h : isNumberPart c = true) :
    Text.isVisible c = true ∧ c ≠ '/' := by
  rcases Bool.or_eq_true_iff.mp h with h | h
  · refine ⟨isVisible_of_isDigit h, ?_⟩
    rintro rfl
    cases h
  · have hc := List.contains_iff_mem.mp h
    simp only [List.mem_cons, List.not_mem_nil, or_false] at hc
    rcases hc with rfl | rfl | rfl | rfl | rfl <;> decide

theorem numberParts_of_isNumeral {s : List Char} (h : IsNumeral s) :
    s ≠ [] ∧ s.all isNumberPart = true := by
  have hdigits : ∀ ds : List Char, ds.all Char.isDigit = true → ds.all isNumberPart = true := by
    intro ds hds
    rw [List.all_eq_true] at hds ⊢
    exact fun c hc => by simp [isNumberPart, hds c hc]
  obtain ⟨whole, fraction, exponent, rfl, hne, hwhole, -, hfraction, hexponent⟩ := h.parts
  refine ⟨by simp [hne], ?_⟩
  rw [List.all_append, List.all_append, hdigits whole hwhole, Bool.true_and]
  have hfrac : fraction.all isNumberPart = true := by
    cases hfraction with
    | none => rfl
    | some hds => simpa [isNumberPart] using hdigits _ hds
  have hexp : exponent.all isNumberPart = true := by
    cases hexponent with
    | none => rfl
    | signed hletter hsign hds =>
      have hmore := hdigits _ hds
      rcases hletter with rfl | rfl <;> rcases hsign with rfl | rfl <;>
        simpa [isNumberPart] using hmore
    | plain hletter hds =>
      have hmore := hdigits _ hds
      rcases hletter with rfl | rfl <;> simpa [isNumberPart] using hmore
  rw [hfrac, hexp]
  rfl

theorem numberParts_of_isSignedNumeral {s : List Char} (h : IsSignedNumeral s) :
    s ≠ [] ∧ s.all isNumberPart = true := by
  obtain h | ⟨digits, rfl, h⟩ := h
  · exact numberParts_of_isNumeral h
  · exact ⟨by simp, by simpa [isNumberPart] using (numberParts_of_isNumeral h).2⟩

theorem numberParts_of_nat (n : Nat) : (toString n).toList.all isNumberPart = true := by
  rw [Nat.toString_eq_repr, Nat.toList_repr, List.all_eq_true]
  intro c hc
  simp [isNumberPart, Nat.isDigit_of_mem_toDigits (by decide) (by decide) hc]

end Json

/-! ## 3. The texts of numbers -/

/-- Whether a character is a visible one and no slash, as all those of numbers are. -/
def Text.isInk (c : Char) : Bool := Text.isVisible c && c != '/'

theorem Text.isInk_iff {c : Char} : Text.isInk c = true ↔ Text.isVisible c = true ∧ c ≠ '/' := by
  simp [isInk]

theorem ink_of_nat (n : Nat) : (toString n).toList.all Text.isInk = true :=
  List.all_eq_true.mpr fun c hc => Text.isInk_iff.mpr
    (Json.isVisible_of_isNumberPart (List.all_eq_true.mp (Json.numberParts_of_nat n) c hc))

theorem ink_of_int (n : Int) : (toString n).toList.all Text.isInk = true := by
  cases n with
  | ofNat n => exact ink_of_nat n
  | negSucc n =>
    have htext : toString (Int.negSucc n) = "-" ++ toString (n + 1) := rfl
    rw [htext, String.toList_append, List.all_append, ink_of_nat]
    rfl

namespace Decimal

theorem ink_digitText {ds : List Nat} (h : ∀ d ∈ ds, d < 10) :
    (digitText ds).toList.all Text.isInk = true := by
  have hall : ∀ d : Fin 10, Text.isInk (Char.ofNat (48 + d.val)) = true := by decide
  rw [digitText, String.toList_ofList, List.all_map, List.all_eq_true]
  exact fun d hd => hall ⟨d, h d hd⟩

theorem ink_zeros (n : Nat) : (zeros n).toList.all Text.isInk = true := by
  rw [zeros, String.toList_ofList, List.all_replicate]
  simp [Text.isInk, Text.isVisible]

theorem digitsOf_lt (n : Nat) : ∀ d ∈ digitsOf n, d < 10 := by
  unfold digitsOf
  split
  · simp
  · intro d hd
    obtain ⟨c, hc, rfl⟩ := List.mem_map.mp hd
    have hdigit := Nat.isDigit_of_mem_toDigits (by decide) (by decide) hc
    simp only [Char.isDigit, Bool.and_eq_true, decide_eq_true_eq] at hdigit
    have hhigh : c.toNat ≤ 57 := UInt32.le_iff_toNat_le.mp hdigit.2
    omega

theorem shortest_lt (tie : Tie) (m : Nat) (q : Int) : ∀ d ∈ (shortest tie m q).digits, d < 10 := by
  unfold shortest
  split
  · simp
  · dsimp only
    split
    · rename_i k unit _
      intro d hd
      have hsub := (List.dropWhile_sublist (l := (digitsOf k).reverse) fun d => decide (d = 0)).subset
      exact digitsOf_lt k d (List.mem_reverse.mp (hsub (List.mem_reverse.mp hd)))
    · simp

theorem ink_positional {d : Digits} (h : ∀ x ∈ d.digits, x < 10) (keepsFraction : Bool) :
    (d.positional keepsFraction).toList.all Text.isInk = true := by
  have htake := ink_digitText fun x hx => h x ((List.take_subset d.point.toNat _) hx)
  have hdrop := ink_digitText fun x hx => h x ((List.drop_subset d.point.toNat _) hx)
  have hink : ∀ s ∈ ["0.0", "0", "0.", ".0", ".", ""], s.toList.all Text.isInk = true := by
    simp [Text.isInk, Text.isVisible]
  unfold Digits.positional
  dsimp only
  split
  · cases keepsFraction <;> simp [Text.isInk, Text.isVisible]
  · split
    · simp only [String.toList_append, List.all_append, ink_zeros, ink_digitText h,
        hink "0." (by simp), Bool.and_self]
    · split
      · simp only [String.toList_append, List.all_append, ink_zeros, ink_digitText h,
          Bool.true_and]
        cases keepsFraction <;> simp [Text.isInk, Text.isVisible]
      · simp only [String.toList_append, List.all_append, htake, hdrop, hink "." (by simp),
          Bool.and_self]

theorem ink_scientific {d : Digits} (h : ∀ x ∈ d.digits, x < 10) :
    d.scientific.toList.all Text.isInk = true := by
  have hexponent : ((if 0 < d.point then "+" else "") ++ toString (d.point - 1)).toList.all
      Text.isInk = true := by
    rw [String.toList_append, List.all_append, ink_of_int]
    split <;> simp [Text.isInk, Text.isVisible]
  unfold Digits.scientific
  dsimp only
  split
  · simp [Text.isInk, Text.isVisible]
  · rename_i first heq
    have hfirst : (digitText [first]).toList.all Text.isInk = true := ink_digitText (heq ▸ h)
    rw [String.toList_append, String.toList_append, List.all_append, List.all_append, hfirst, hexponent]
    simp [Text.isInk, Text.isVisible]
  · rename_i first rest _ heq
    rw [heq] at h
    have hfirst : (digitText [first]).toList.all Text.isInk = true :=
      ink_digitText fun x hx => h x (by simp_all)
    have hrest : (digitText rest).toList.all Text.isInk = true :=
      ink_digitText fun x hx => h x (List.mem_cons_of_mem _ hx)
    rw [String.toList_append, List.all_append, hexponent]
    simp only [String.toList_append, List.all_append, hfirst, hrest]
    simp [Text.isInk, Text.isVisible]

theorem ink_text (l : Layout) (x : Float) : (l.text x).toList.all Text.isInk = true := by
  have hname : ∀ s ∈ ["NaN", "-inf", "inf"], s.toList.all Text.isInk = true := by
    simp [Text.isInk, Text.isVisible]
  unfold Layout.text
  split
  · rename_i b _
    have hdigits := shortest_lt l.tie b.mantissa b.exponent
    generalize shortest l.tie b.mantissa b.exponent = d at hdigits
    have hbody : ∀ body : String, body.toList.all Text.isInk = true →
        (if b.negative then "-" ++ body else body).toList.all Text.isInk = true := by
      intro body hbody
      split
      · rw [String.toList_append, List.all_append, hbody]
        simp [Text.isInk, Text.isVisible]
      · exact hbody
    refine hbody _ ?_
    split
    · split
      · exact ink_positional hdigits _
      · exact ink_scientific hdigits
    · exact ink_positional hdigits _
  · split
    · exact hname _ (by simp)
    · split
      · exact hname _ (by simp)
      · exact hname _ (by simp)

end Decimal

theorem Number.visible_text (n : Number) : n.text.toList.all Text.isVisible = true := by
  have hink : n.text.toList.all Text.isInk = true := by
    cases n with
    | integer n => exact ink_of_int n
    | float x => exact Decimal.ink_text _ x
  exact List.all_eq_true.mpr fun c hc => (Text.isInk_iff.mp (List.all_eq_true.mp hink c hc)).1

/-! ## 4. Numbers that are read back -/

namespace Json

theorem not_isBlank_of_isVisible {c : Char} (h : Text.isVisible c = true) : isBlank c = false := by
  have hne : ∀ d : Char, Text.isVisible d = false → c ≠ d := by
    rintro d hd rfl
    rw [h] at hd
    cases hd
  simp [isBlank, hne ' ' (by decide), hne '\n' (by decide), hne '\t' (by decide), hne '\r' (by decide)]

theorem skipBlanks_of_visible {s : List Char} (h : s.all Text.isVisible = true) : skipBlanks s = s := by
  cases s with
  | nil => rfl
  | cons c rest =>
    simp only [List.all_cons, Bool.and_eq_true] at h
    rw [skipBlanks, List.dropWhile_cons_of_neg (by simp [not_isBlank_of_isVisible h.1])]

/-- A number is read from nothing but a number. -/
theorem readNumber_of_readValue {depth : Nat} {s rest : List Char} {n : Number}
    (hs : s.all Text.isVisible = true) (h : readValue depth s = some (.number n, rest)) :
    readNumber s = some (n, rest) := by
  unfold readValue at h
  rw [skipBlanks_of_visible hs] at h
  have hword : ∀ {word : String} {value : Json} {t : List Char},
      readWord word value t = some (.number n, rest) → value = .number n := by
    intro word value t hw
    unfold readWord at hw
    split at hw
    · exact (Prod.mk.inj (Option.some.inj hw)).1
    · cases hw
  split at h
  · obtain ⟨_, -, heq⟩ := Option.map_eq_some_iff.mp h
    cases heq
  · split at h
    · cases h
    · split at h
      · cases h
      · obtain ⟨_, -, heq⟩ := Option.map_eq_some_iff.mp h
        cases heq
  · split at h
    · cases h
    · split at h
      · cases h
      · obtain ⟨_, -, heq⟩ := Option.map_eq_some_iff.mp h
        cases heq
  · cases hword h
  · cases hword h
  · cases hword h
  · obtain ⟨_, hread, heq⟩ := Option.map_eq_some_iff.mp h
    cases heq
    exact hread

/-- A number that is read back from its text is read from all of it. -/
theorem readNumber_of_parse? {n : Number} (h : parse? n.text = some (.number n)) :
    readNumber n.text.toList = some (n, []) := by
  have hvisible := n.visible_text
  unfold parse? parseWithin? at h
  split at h
  · rename_i value rest hvalue
    split at h
    · rename_i hempty
      cases h
      have hread := readNumber_of_readValue hvisible hvalue
      obtain ⟨text, heq, -⟩ := readNumber_eq_some hread
      rw [heq, List.all_append, Bool.and_eq_true] at hvisible
      rw [skipBlanks_of_visible hvisible.2, List.isEmpty_iff] at hempty
      rw [hread, hempty]
    · cases h
  · cases h

/-- **A number that is read back from its text is written as a sign and a numeral.** -/
theorem isSignedNumeral_of_parse? {n : Number} (h : parse? n.text = some (.number n)) :
    IsSignedNumeral n.text.toList := by
  obtain ⟨text, heq, htext⟩ := readNumber_eq_some (readNumber_of_parse? h)
  rw [heq, List.append_nil]
  exact htext

/-- Only zero is written with a zero in front. -/
theorem head_toDigits {n : Nat} (h : (Nat.toDigits 10 n).head? = some '0') : n = 0 := by
  induction n using Nat.strongRecOn with
  | ind n ih =>
    rw [Nat.toDigits_eq_if (by decide)] at h
    split at h
    · rename_i hlt
      have hall : ∀ k : Fin 10, Nat.digitChar k = '0' → k.val = 0 := by decide
      exact hall ⟨n, hlt⟩ (by simpa using h)
    · rename_i hge
      have hhead : (Nat.toDigits 10 (n / 10)).head? = some '0' := by
        rwa [List.head?_append, Option.or_of_isSome (by simp [Nat.toDigits_ne_nil])] at h
      have hzero := ih (n / 10) (by omega) hhead
      omega

/-- The digits of a number are read to their end. -/
theorem readWhole_toDigits (n : Nat) : readWhole (Nat.toDigits 10 n) = some (Nat.toDigits 10 n, []) := by
  have hdigits : spanDigits (Nat.toDigits 10 n) = (Nat.toDigits 10 n, []) := by
    rw [spanDigits, List.span_eq_takeWhile_dropWhile]
    have hall : ∀ c ∈ Nat.toDigits 10 n, c.isDigit = true := fun c hc =>
      Nat.isDigit_of_mem_toDigits (by decide) (by decide) hc
    rw [List.takeWhile_eq_self_iff.mpr hall, List.dropWhile_eq_nil_iff.mpr hall]
  unfold readWhole
  rw [hdigits]
  split
  · rename_i heq
    exact absurd (Prod.mk.inj heq).1 Nat.toDigits_ne_nil
  · rename_i c rest _ heq
    obtain ⟨heq, -⟩ := Prod.mk.inj heq
    have hzero := @head_toDigits n (by rw [heq]; rfl)
    subst hzero
    simp at heq
  · rename_i heq
    rw [heq]

/-- The value that the digits of a number add up to. -/
theorem value_toDigits (n : Nat) : (Nat.toDigits 10 n).foldl (fun k c => k * 10 + digitValue c) 0 = n := by
  have hback := @Nat.ofDigitChars_ten_toDigits n
  rw [Nat.ofDigitChars_eq_foldl] at hback
  simpa [digitValue, Nat.mul_comm] using hback

end Json

namespace Annotation

/-- A bound is written as a sign and a numeral. -/
theorem isSignedNumeral_of_number? {s : List Char} {x : Float} (h : number? s = some x) :
    Json.IsSignedNumeral s := by
  obtain ⟨literal, hliteral, -⟩ := Option.bind_eq_some_iff.mp h
  unfold numericLiteral? at hliteral
  split at hliteral
  rename_i negative s' hsign
  obtain ⟨⟨whole, s₁⟩, hwhole, hliteral⟩ := Option.bind_eq_some_iff.mp hliteral
  obtain ⟨⟨fraction, s₂⟩, hfraction, hliteral⟩ := Option.bind_eq_some_iff.mp hliteral
  obtain ⟨⟨exponent, s₃⟩, hexponent, hliteral⟩ := Option.bind_eq_some_iff.mp hliteral
  dsimp only at hliteral
  split at hliteral
  · rename_i hempty
    rw [List.isEmpty_iff] at hempty
    subst hempty
    obtain ⟨text, rfl, htext⟩ :=
      Json.isSignedNumeral_of_sign hsign (Json.isNumeral_of_parts hwhole hfraction hexponent)
    rwa [List.append_nil]
  · cases hliteral

/-- A length is read back. -/
theorem length?_toString {n : Nat} (h : n ≤ Json.largestWhole) : length? (toString n).toList = some n := by
  unfold length?
  rw [Nat.toString_eq_repr, Nat.toList_repr, Json.readWhole_toDigits]
  dsimp only
  rw [Json.value_toDigits, if_pos h]

end Annotation

end ServiceGraph
