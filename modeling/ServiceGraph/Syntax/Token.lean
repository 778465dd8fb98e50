import ServiceGraph.Source.Span

/-!
The tokens of a declaration file.

`Token.scan` cuts a text into names, numbers, strings, templates, regular expressions, punctuation and
comments, each with its place and with a note of whether a line break stands in front of it. White
space is dropped and nothing else is. A template is one token, whatever is nested in its
substitutions. A slash starts a regular expression only where a value may begin.

Each step says how many characters its token takes, so what is left grows shorter by itself.
-/

namespace ServiceGraph.Syntax

inductive TokenKind
  | name
  | privateName
  | number
  | string
  | template
  | regex
  | punctuation
  | comment
  /-- A character with which no token starts, or that leaves one open. -/
  | stray
deriving Repr, DecidableEq, Inhabited

namespace Token

/-! ## Character classes -/

/-- Blanks between tokens. -/
def isBlank (c : Char) : Bool :=
  let n := c.toNat
  n = 32 || (9 ≤ n && n ≤ 13) || n = 0xA0 || n = 0x1680 || (0x2000 ≤ n && n ≤ 0x200B) || n = 0x2028
    || n = 0x2029 || n = 0x202F || n = 0x205F || n = 0x2060 || n = 0x3000 || n = 0xFEFF

def isLineEnd (c : Char) : Bool :=
  c = '\n' || c = '\r' || c.toNat = 0x2028 || c.toNat = 0x2029

/-- Characters of a name after its first: everything but blanks, controls and punctuation. -/
def isNamePart (c : Char) : Bool :=
  if c.toNat < 128 then c.isAlphanum || c = '_' || c = '$' || c.toNat = 127 else !isBlank c

def isNameStart (c : Char) : Bool := isNamePart c && !c.isDigit

/-- Whether a text is a name. -/
def isName : List Char → Bool
  | first :: rest => isNameStart first && rest.all isNamePart
  | [] => false

/-- The characters up to and including the end of a block comment. -/
def blockCommentLength? : List Char → Option Nat
  | '*' :: '/' :: _ => some 2
  | _ :: rest => (blockCommentLength? rest).map (· + 1)
  | [] => none

/-- Whether a text can be that of a token of a kind: a name is one word, and a block comment ends where
it first can. -/
structure Fits (kind : TokenKind) (text : List Char) : Prop where
  name : kind = .name → isName text = true
  comment : kind = .comment → ∀ body, text = '/' :: '*' :: body →
    blockCommentLength? body = some body.length

end Token

structure Token where
  kind : TokenKind
  text : String
  start : Mark
  stop : Mark
  /-- Whether a line feed stands in the white space in front. -/
  lineBreak : Bool
  fits : Token.Fits kind text.toList
deriving Repr

namespace Token

instance : Inhabited Token :=
  ⟨⟨.stray, "", .origin, .origin, false, ⟨by simp, by simp⟩⟩⟩

def span (t : Token) : Span := t.start.upTo t.stop.offset

def isComment (t : Token) : Bool := t.kind == .comment

/-! ## How far a token reaches

Each function counts characters from the front of what it is given. -/

def nameLength (s : List Char) : Nat := (s.takeWhile isNamePart).length

def lineCommentLength (s : List Char) : Nat := (s.takeWhile (!isLineEnd ·)).length

/-- The characters up to and including the closing quote of a string. Only behind a backslash may a
line end. -/
def stringLength? (quote : Char) : List Char → Option Nat
  | '\\' :: '\r' :: '\n' :: rest => (stringLength? quote rest).map (· + 3)
  | '\\' :: _ :: rest => (stringLength? quote rest).map (· + 2)
  | c :: rest =>
    if c = quote then some 1
    else if c = '\n' || c = '\r' then none
    else (stringLength? quote rest).map (· + 1)
  | [] => none

/-- The characters up to and including the slash that ends a regular expression; inside brackets a
slash is an ordinary character. -/
def regexLength? (bracket : Bool) : List Char → Option Nat
  | '\\' :: c :: rest => if isLineEnd c then none else (regexLength? bracket rest).map (· + 2)
  | c :: rest =>
    if isLineEnd c then none
    else if c = '/' && !bracket then some 1
    else (regexLength? (if c = '[' then true else if c = ']' then false else bracket) rest).map (· + 1)
  | [] => none

/-- What surrounds a place inside a template. -/
inductive Enclosure
  | template
  | braces
  | quotes (quote : Char)
  | lineComment
  | blockComment

/-- The characters up to and including the end of the outermost enclosure. -/
def enclosedLength? : List Enclosure → List Char → Option Nat
  | [], _ => some 0
  | _, [] => none
  | .template :: outer, '\\' :: _ :: rest => (enclosedLength? (.template :: outer) rest).map (· + 2)
  | .template :: outer, '$' :: '\x7b' :: rest =>
    (enclosedLength? (.braces :: .template :: outer) rest).map (· + 2)
  | .template :: outer, c :: rest =>
    if c = '\x60' then (enclosedLength? outer rest).map (· + 1)
    else (enclosedLength? (.template :: outer) rest).map (· + 1)
  | .quotes q :: outer, '\\' :: _ :: rest => (enclosedLength? (.quotes q :: outer) rest).map (· + 2)
  | .quotes q :: outer, c :: rest =>
    if c = q || c = '\n' then (enclosedLength? outer rest).map (· + 1)
    else (enclosedLength? (.quotes q :: outer) rest).map (· + 1)
  | .lineComment :: outer, c :: rest =>
    (enclosedLength? (if c = '\n' then outer else .lineComment :: outer) rest).map (· + 1)
  | .blockComment :: outer, '*' :: '/' :: rest => (enclosedLength? outer rest).map (· + 2)
  | .blockComment :: outer, _ :: rest => (enclosedLength? (.blockComment :: outer) rest).map (· + 1)
  | .braces :: outer, '/' :: '/' :: rest =>
    (enclosedLength? (.lineComment :: .braces :: outer) rest).map (· + 2)
  | .braces :: outer, '/' :: '*' :: rest =>
    (enclosedLength? (.blockComment :: .braces :: outer) rest).map (· + 2)
  | .braces :: outer, c :: rest =>
    let enclosures :=
      if c = '\x7d' then outer
      else if c = '\x7b' then .braces :: .braces :: outer
      else if c = '\x60' then .template :: .braces :: outer
      else if c = '"' || c = '\'' then .quotes c :: .braces :: outer
      else .braces :: outer
    (enclosedLength? enclosures rest).map (· + 1)

def isDigitOrBreak (c : Char) : Bool := c.isDigit || c = '_'

/-- The exponent of a number, from its letter on; zero characters if there is none. -/
def exponentLength (s : List Char) : Nat :=
  match s with
  | e :: sign :: d :: rest =>
    if e = 'e' || e = 'E' then
      if (sign = '+' || sign = '-') && d.isDigit then 3 + (rest.takeWhile isDigitOrBreak).length
      else if sign.isDigit then 2 + ((d :: rest).takeWhile isDigitOrBreak).length
      else 0
    else 0
  | [e, d] => if (e = 'e' || e = 'E') && d.isDigit then 2 else 0
  | _ => 0

/-- A numeric literal: digits in some base with breaks between them, a fraction, an exponent, and the
mark of a large whole number. -/
def numberLength (s : List Char) : Nat :=
  match s with
  | '0' :: base :: rest =>
    if base = 'x' || base = 'X' || base = 'o' || base = 'O' || base = 'b' || base = 'B' then
      2 + (rest.takeWhile (fun c => c.isAlphanum || c = '_')).length
    else decimal s
  | _ => decimal s
where
  decimal (s : List Char) : Nat :=
    let whole := (s.takeWhile isDigitOrBreak).length
    let rest := s.drop whole
    match rest with
    | 'n' :: _ => whole + 1
    | '.' :: fraction =>
      let places := (fraction.takeWhile isDigitOrBreak).length
      whole + 1 + places + exponentLength (fraction.drop places)
    | _ => whole + exponentLength rest

/-- Punctuation of more than one character, longer ones first. A closing angle always stands alone,
since it may close several argument lists. -/
def longPunctuation : List String :=
  ["...", "===", "!==", "**=", "&&=", "||=", "??=", "=>", "==", "!=", "++", "--", "&&", "||", "??",
   "**", "+=", "-=", "*=", "/=", "%=", "&=", "|=", "^=", "<="]

/-- How many characters a piece of punctuation takes; none if no punctuation starts here. -/
def punctuationLength? (s : List Char) : Option Nat :=
  match longPunctuation.find? (fun p => p.toList.isPrefixOf s) with
  | some p => some p.length
  | none =>
    match s with
    | '?' :: '.' :: c :: _ => if c.isDigit then some 1 else some 2
    | c :: _ => if "\x7b\x7d()[];,<>+-*/%&|^!~?:=.@".toList.contains c then some 1 else none
    | [] => none

/-- Words after which a value begins. -/
def wordsBeforeValue : List String :=
  ["return", "typeof", "instanceof", "in", "of", "new", "delete", "void", "throw", "case", "default",
   "do", "else", "await", "yield"]

/-- Whether a slash after this token starts a regular expression. -/
def allowsRegex : Option Token → Bool
  | none => true
  | some t =>
    match t.kind with
    | .name => wordsBeforeValue.contains t.text
    | .punctuation => !([")", "]", "\x7d"].contains t.text)
    | _ => false

/-- The token in front: its kind, and how many characters it takes besides its first. -/
def measure (previous : Option Token) (first : Char) (rest : List Char) : TokenKind × Nat :=
  let punctuation : TokenKind × Nat :=
    match punctuationLength? (first :: rest) with
    | some n => (.punctuation, n - 1)
    | none => (.stray, 0)
  if first = '/' then
    match rest with
    | '/' :: _ => (.comment, lineCommentLength rest)
    | '*' :: body =>
      match blockCommentLength? body with
      | some n => (.comment, n + 1)
      | none => (.stray, 0)
    | _ =>
      if allowsRegex previous then
        match regexLength? false rest with
        | some n => (.regex, n + ((rest.drop n).takeWhile Char.isAlpha).length)
        | none => punctuation
      else punctuation
  else if first = '"' || first = '\'' then
    match stringLength? first rest with
    | some n => (.string, n)
    | none => (.stray, 0)
  else if first = '\x60' then
    match enclosedLength? [.template] rest with
    | some n => (.template, n)
    | none => (.stray, 0)
  else if first = '#' then
    match rest with
    | '!' :: _ => (.comment, lineCommentLength rest)
    | _ => if rest.head?.any isNameStart then (.privateName, nameLength rest) else (.stray, 0)
  else if first.isDigit || (first = '.' && rest.head?.any Char.isDigit) then
    (.number, numberLength (first :: rest) - 1)
  else if isNameStart first then (.name, nameLength rest)
  else punctuation

theorem isName_takeWhile {first : Char} (h : isNameStart first = true) (rest : List Char) :
    isName (first :: rest.take (nameLength rest)) = true := by
  have htake : rest.take (nameLength rest) = rest.takeWhile isNamePart :=
    List.prefix_iff_eq_take.mp (List.takeWhile_prefix isNamePart) |>.symm
  rw [htake, isName, h, Bool.true_and, List.all_takeWhile]

theorem blockCommentLength?_take {body : List Char} {n : Nat}
    (h : blockCommentLength? body = some n) :
    blockCommentLength? (body.take n) = some (body.take n).length := by
  fun_induction blockCommentLength? body generalizing n with
  | case1 rest =>
    cases h
    rfl
  | case2 c rest hclose ih =>
    obtain ⟨m, hm, rfl⟩ := Option.map_eq_some_iff.mp h
    have hshort := ih hm
    rw [List.take_succ_cons, List.length_cons]
    unfold blockCommentLength?
    split
    · rename_i heq
      cases m with
      | zero => simp at heq
      | succ m =>
        cases rest with
        | nil => simp at heq
        | cons d rest =>
          simp only [List.take_succ_cons, List.cons.injEq] at heq
          exact (hclose rest heq.1 (by rw [heq.2.1])).elim
    · rename_i heq
      cases heq
      rw [hshort]
      rfl
    · simp_all
  | case3 => cases h

/-- What is measured is a token. -/
theorem fits_measure (previous : Option Token) (first : Char) (rest : List Char) :
    Fits (measure previous first rest).1 (first :: rest.take (measure previous first rest).2) := by
  have hother : ∀ (kind : TokenKind) (text : List Char), kind ≠ .name → kind ≠ .comment →
      Fits kind text := fun _ _ hn hc => ⟨fun h => absurd h hn, fun h => absurd h hc⟩
  have hpunctuation : ∀ text, Fits (match punctuationLength? (first :: rest) with
      | some n => ((.punctuation, n - 1) : TokenKind × Nat)
      | none => (.stray, 0)).1 text := by
    intro text
    split <;> exact hother _ _ (by simp) (by simp)
  unfold measure
  dsimp only
  split
  · rename_i hslash
    split
    · rename_i tail
      refine ⟨by simp, fun _ body hbody => ?_⟩
      simp [lineCommentLength, isLineEnd] at hbody
    · rename_i body
      split
      · rename_i n hn
        refine ⟨by simp, fun _ text htext => ?_⟩
        obtain ⟨-, htext⟩ := List.cons.inj htext
        obtain rfl := (List.cons.inj htext).2
        exact blockCommentLength?_take hn
      · exact hother _ _ (by simp) (by simp)
    · split
      · split
        · exact hother _ _ (by simp) (by simp)
        · exact hpunctuation _
      · exact hpunctuation _
  · rename_i hslash
    split
    · split <;> exact hother _ _ (by simp) (by simp)
    · split
      · split <;> exact hother _ _ (by simp) (by simp)
      · split
        · split
          · refine ⟨by simp, fun _ body hbody => absurd (List.cons.inj hbody).1 hslash⟩
          · split <;> exact hother _ _ (by simp) (by simp)
        · split
          · exact hother _ _ (by simp) (by simp)
          · split
            · rename_i hname
              exact ⟨fun _ => isName_takeWhile hname rest, by simp⟩
            · exact hpunctuation _

/-! ## Scanning -/

/-- The tokens of a text that starts at a place, after a token and perhaps a line break. -/
def scanFrom (place : Mark) (previous : Option Token) (lineBreak : Bool) : List Char → List Token
  | [] => []
  | c :: rest =>
    if isBlank c then scanFrom (place.step c) previous (lineBreak || c = '\n') rest
    else
      let m := measure previous c rest
      let text := c :: rest.take m.2
      let t : Token :=
        ⟨m.1, String.ofList text, place, place.after text, lineBreak,
          by rw [String.toList_ofList]; exact fits_measure previous c rest⟩
      t :: scanFrom t.stop (if t.isComment then previous else some t) false (rest.drop m.2)
termination_by s => s.length
decreasing_by
  · simp
  · simp only [List.length_drop, List.length_cons]; omega

/-- The tokens of a text. -/
def scan (s : List Char) : List Token := scanFrom .origin none false s

end Token

end ServiceGraph.Syntax
