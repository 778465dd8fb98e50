import ServiceGraph.Json.Reader
import ServiceGraph.Pattern.Basic

/-!
Reading regular expressions.

The accepted language has alternatives, groups with and without names, flags, greedy and lazy
repetitions, bracketed classes with nested classes and set operations, classes by Unicode name, and
assertions about text, lines and words. It has no look-around and no references to groups. Patterns
that are nested too deeply or would take too much room are refused.
-/

namespace ServiceGraph.Pattern

/-- The switches in force at a place of a pattern. -/
structure Flags where
  ignoreCase : Bool
  multiLine : Bool
  dotMatchesAll : Bool
  unicode : Bool
  wideLineEnds : Bool
  ignoreBlanks : Bool
deriving Repr, Inhabited

namespace Flags

def initial : Flags := ⟨false, false, false, true, false, false⟩

/-- Sets one switch by its letter. The one for laziness changes no answer. -/
def set? (f : Flags) (letter : Char) (on : Bool) : Option Flags :=
  match letter with
  | 'i' => some { f with ignoreCase := on }
  | 'm' => some { f with multiLine := on }
  | 's' => some { f with dotMatchesAll := on }
  | 'u' => some { f with unicode := on }
  | 'R' => some { f with wideLineEnds := on }
  | 'x' => some { f with ignoreBlanks := on }
  | 'U' => some f
  | _ => none

end Flags

/-- A place in a pattern's text. -/
structure ReaderState where
  rest : List Char
  flags : Flags
  /-- Group names seen so far. -/
  names : List (List Char)

abbrev Reader := StateT ReaderState Option

namespace Reader

/-- What has been read, and how deeply it is nested. -/
structure Nested (α : Type) where
  value : α
  depth : Nat

def fail {α : Type} : Reader α := fun _ => none

def peek? : Reader (Option Char) := fun s => some (s.rest.head?, s)

/-- Whether the text ahead starts with a given one. -/
def looksAt (text : String) : Reader Bool := fun s => some (text.toList.isPrefixOf s.rest, s)

/-- Takes the given text, if it is ahead. -/
def accept (text : String) : Reader Bool := fun s =>
  if text.toList.isPrefixOf s.rest then some (true, { s with rest := s.rest.drop text.length })
  else some (false, s)

def expect (text : String) : Reader Unit := do
  if ← accept text then pure () else fail

def next : Reader Char := fun s =>
  match s.rest with
  | c :: rest => some (c, { s with rest := rest })
  | [] => none

/-- A text without the blanks and line comments in front. -/
def withoutBlanks (inComment : Bool) : List Char → List Char
  | [] => []
  | c :: rest =>
    if inComment then withoutBlanks (c != '\n') rest
    else if Text.isWhiteSpace c then withoutBlanks false rest
    else if c = '#' then withoutBlanks true rest
    else c :: rest

/-- Steps over blanks and comments, where they do not count. -/
def skipBlanks : Reader Unit := fun s =>
  if s.flags.ignoreBlanks then some ((), { s with rest := withoutBlanks false s.rest }) else some ((), s)

/-- The next character that counts, left where it is. -/
def peekBehindBlank? : Reader (Option Char) := fun s =>
  match s.rest with
  | [] => some (none, s)
  | _ :: rest =>
    some ((if s.flags.ignoreBlanks then withoutBlanks false rest else rest).head?, s)

def flags : Reader Flags := fun s => some (s.flags, s)

def setFlags (f : Flags) : Reader Unit := fun s => some ((), { s with flags := f })

/-- Takes characters as long as a test holds. -/
def takeWhile (p : Char → Bool) : Reader (List Char) := fun s =>
  some (s.rest.takeWhile p, { s with rest := s.rest.dropWhile p })

/-- The set for a character or class, closed under change of case if that is on. -/
def foldCase (f : Flags) (s : CharSet) : CharSet :=
  if f.ignoreCase then
    if f.unicode then .anyCase s
    else .intersection (.anyCase s) (.interval 0 127) |> .union s
  else s

/-- A complement is refused where characters beyond ASCII are not told apart. -/
def complementIf (f : Flags) (negated : Bool) (s : CharSet) : Reader CharSet :=
  if !negated then pure s else if f.unicode then pure (.complement s) else fail

/-! ## Escapes -/

/-- What one escape stands for. -/
inductive Atom
  | literal (c : Char)
  | set (s : CharSet)
  | assertion (a : Assertion)

/-- Characters with a meaning of their own, which an escape takes away. -/
def isMeta (c : Char) : Bool := "\\.+*?()|[]\x7b\x7d^$#&-~".toList.contains c

/-- Characters that may stand behind a backslash without a meaning. -/
def isEscapable (c : Char) : Bool :=
  isMeta c || (c.toNat < 128 && !c.isAlphanum && c != '<' && c != '>')

/-- A number of hexadecimal digits of fixed length. -/
def hexDigits : Nat → Nat → Reader Nat
  | 0, value => pure value
  | count + 1, value => do
    match Text.hexValue? (← next) with
    | some d =>
      if count != 0 then skipBlanks
      hexDigits count (value * 16 + d)
    | none => fail

/-- A character by its code, after the letter that tells how many digits follow. -/
def hexEscape (letter : Char) : Reader Char := do
  skipBlanks
  let f ← flags
  if ← accept "\x7b" then
    skipBlanks
    let digits ← takeWhile (· != '\x7d')
    expect "\x7d"
    let digits := if f.ignoreBlanks then digits.filter (!Text.isWhiteSpace ·) else digits
    match (Text.hexNumber? digits).bind Text.charOfCode? with
    | some c => if letter = 'x' && !f.unicode && 127 < c.toNat && c.toNat < 256 then fail else pure c
    | none => fail
  else
    let count := if letter = 'x' then 2 else if letter = 'u' then 4 else 8
    match Text.charOfCode? (← hexDigits count 0) with
    | some c => if letter = 'x' && !f.unicode && 127 < c.toNat then fail else pure c
    | none => fail

/-- The parts of a text around the first place where another occurs. -/
def splitAt? (separator : List Char) : List Char → Option (List Char × List Char)
  | [] => none
  | c :: rest =>
    if separator.isPrefixOf (c :: rest) then some ([], (c :: rest).drop separator.length)
    else (splitAt? separator rest).map fun (a, b) => (c :: a, b)

/-- A class by its Unicode name: one letter, or a name in braces, perhaps with a value. -/
def namedClass (negated : Bool) : Reader CharSet := do
  let f ← flags
  if !f.unicode then fail
  skipBlanks
  let (found, flipped) ←
    if ← accept "\x7b" then do
      let name ← takeWhile (· != '\x7d')
      expect "\x7d"
      let name := if f.ignoreBlanks then name.filter (!Text.isWhiteSpace ·) else name
      match splitAt? "!=".toList name with
      | some (property, value) => pure (CharSet.valued? property value, true)
      | none =>
        match (splitAt? [':'] name).orElse (fun _ => splitAt? ['='] name) with
        | some (property, value) => pure (CharSet.valued? property value, false)
        | none => pure (CharSet.named? name, false)
    else do
      let c ← next
      if c = '\\' then fail
      pure (CharSet.category? (CharSet.canonicalName [c]), false)
  match found with
  | some s =>
    let s := foldCase f s
    pure (if negated != flipped then .complement s else s)
  | none => fail

/-- The classes with one letter of their own. -/
def perlClass (letter : Char) : Reader CharSet := do
  let f ← flags
  let lower := letter.toLower
  let s :=
    if lower = 'd' then (if f.unicode then CharSet.decimalDigit else CharSet.asciiDigit)
    else if lower = 's' then (if f.unicode then CharSet.blank else CharSet.asciiBlank)
    else if f.unicode then CharSet.wordPart else CharSet.asciiWordPart
  complementIf f letter.isUpper s

/-- The word boundary behind `\b`: plain, or one of the kinds with a name in braces. A brace that
cannot hold such a name is left to be a repetition. -/
def boundary : Reader Assertion := fun s =>
  let isNamePart := fun (c : Char) => c.isAlpha || c = '-'
  match s.rest with
  | '\x7b' :: c :: rest =>
    if isNamePart c then
      let name := (c :: rest).takeWhile isNamePart
      let behind := (c :: rest).dropWhile isNamePart
      let kind? : Option Assertion :=
        match String.ofList name with
        | "start" => some .wordStart
        | "end" => some .wordEnd
        | "start-half" => some .wordStartHalf
        | "end-half" => some .wordEndHalf
        | _ => none
      match kind?, behind with
      | some kind, '\x7d' :: rest => some (kind, { s with rest := rest })
      | _, _ => none
    else some (.wordBoundary, s)
  | ['\x7b'] => none
  | _ => some (.wordBoundary, s)

/-- What stands behind a backslash. -/
def escape : Reader Atom := do
  let c ← next
  if isEscapable c then pure (.literal c)
  else if c = 'x' || c = 'u' || c = 'U' then pure (.literal (← hexEscape c))
  else if c = 'p' || c = 'P' then pure (.set (← namedClass (c = 'P')))
  else if "dswDSW".toList.contains c then pure (.set (← perlClass c))
  else
    match c with
    | 'a' => pure (.literal (Char.ofNat 7))
    | 'f' => pure (.literal (Char.ofNat 12))
    | 't' => pure (.literal '\t')
    | 'n' => pure (.literal '\n')
    | 'r' => pure (.literal '\r')
    | 'v' => pure (.literal (Char.ofNat 11))
    | 'A' => pure (.assertion .textStart)
    | 'z' => pure (.assertion .textEnd)
    | 'b' => pure (.assertion (← boundary))
    | 'B' => pure (.assertion .noWordBoundary)
    | '<' => pure (.assertion .wordStart)
    | '>' => pure (.assertion .wordEnd)
    | _ => fail

/-! ## Bracketed classes -/

/-- The operations between the parts of a bracketed class. -/
inductive SetOperation
  | and
  | minus
  | exclusive

/-- Joins what stands before a set operation with what stands behind it. -/
def joinSets (f : Flags) (pending : Option (SetOperation × CharSet)) (s : CharSet) : CharSet :=
  match pending with
  | none => s
  | some (.and, left) => .intersection (foldCase f left) (foldCase f s)
  | some (.minus, left) => .difference (foldCase f left) (foldCase f s)
  | some (.exclusive, left) => .symmetricDifference (foldCase f left) (foldCase f s)

/-- A class such as `[:alpha:]` at the front, and what follows it. -/
def asciiClass? (f : Flags) (s : List Char) : Option (CharSet × List Char) :=
  match s with
  | '[' :: ':' :: rest =>
    let (negated, rest) := match rest with
      | '^' :: rest => (true, rest)
      | _ => (false, rest)
    let name := rest.takeWhile (· != ':')
    match rest.dropWhile (· != ':'), CharSet.ascii? (String.ofList name) with
    | ':' :: ']' :: behind, some found =>
      let found := foldCase f found
      some (if negated then .complement found else found, behind)
    | _, _ => none
  | _ => none

/-- One end of a range, or a class. -/
def classAtom : Reader Atom := do
  let c ← next
  if c = '\\' then escape
  else
    let f ← flags
    if !f.unicode && 127 < c.toNat then fail
    pure (.literal c)

/-- A character, a range of characters, or a class inside brackets. -/
def classRange : Reader CharSet := do
  let first ← classAtom
  skipBlanks
  let behind ← peekBehindBlank?
  match ← peek? with
  | none => fail
  | some c =>
    if c != '-' || behind == some ']' || behind == some '-' then
      match first with
      | .literal c => pure (.single c)
      | .set s => pure s
      | .assertion _ => fail
    else
      let _ ← next
      skipBlanks
      match first, ← classAtom with
      | .literal low, .literal high =>
        if low.toNat ≤ high.toNat then pure (.interval low.toNat high.toNat) else fail
      | _, _ => fail

/-- The hyphens at the start of a class stand for themselves. -/
def leadingHyphens : Nat → CharSet → Nat → Reader (CharSet × Nat)
  | 0, s, n => pure (s, n)
  | budget + 1, s, n => do
    if ← accept "-" then
      skipBlanks
      leadingHyphens budget (.union s (.single '-')) (n + 1)
    else pure (s, n)

mutual

/-- A bracketed class behind its opening bracket. -/
def bracketed : Nat → Reader (Nested CharSet)
  | 0 => fail
  | budget + 1 => do
    skipBlanks
    let negated ← accept "^"
    skipBlanks
    let (start, count) ← leadingHyphens budget .empty 0
    let (start, count) ←
      if count = 0 then do
        if ← accept "]" then
          skipBlanks
          pure (CharSet.single ']', 1)
        else pure (start, 0)
      else pure (start, count)
    let inner ← classItems none start count 0 budget
    let f ← flags
    let s ← complementIf f negated (foldCase f inner.value)
    pure ⟨s, inner.depth + 1⟩

/-- The items of a class up to its closing bracket. -/
def classItems (pending : Option (SetOperation × CharSet)) (sofar : CharSet) (count depth : Nat) :
    Nat → Reader (Nested CharSet)
  | 0 => fail
  | budget + 1 => do
    skipBlanks
    let f ← flags
    let operation? : Option SetOperation ←
      if ← accept "&&" then pure (some .and)
      else if ← accept "--" then pure (some .minus)
      else if ← accept "~~" then pure (some .exclusive)
      else pure none
    match operation? with
    | some operation =>
      classItems (some (operation, joinSets f pending sofar)) .empty 0 (depth + 1) budget
    | none =>
      if ← accept "]" then
        pure ⟨joinSets f pending sofar, if 1 < count then depth + 1 else depth⟩
      else if ← looksAt "[" then
        let found? : Option CharSet ← fun s =>
          match asciiClass? f s.rest with
          | some (found, rest) => some (some found, { s with rest := rest })
          | none => some (none, s)
        match found? with
        | some found => classItems pending (.union sofar found) (count + 1) depth budget
        | none =>
          let _ ← next
          let inner ← bracketed budget
          classItems pending (.union sofar inner.value) (count + 1) (max depth inner.depth) budget
      else
        let found ← classRange
        classItems pending (.union sofar found) (count + 1) depth budget

end

/-! ## Repetitions and groups -/

/-- A decimal number with blanks around it. -/
def decimal : Reader Nat := do
  let _ ← takeWhile Text.isWhiteSpace
  let digits ← takeWhile Char.isDigit
  let _ ← takeWhile Text.isWhiteSpace
  if digits.isEmpty then fail
  let n := digits.foldl (fun n c => n * 10 + Json.digitValue c) 0
  if n < 0x100000000 then pure n else fail

/-- The bounds of a counted repetition behind its opening brace. -/
def counts : Reader (Nat × Option Nat) := do
  skipBlanks
  let least ← decimal
  let bounds ←
    if ← accept "," then do
      skipBlanks
      if ← looksAt "\x7d" then pure (least, none)
      else do
        let most ← decimal
        if most < least then fail
        pure (least, some most)
    else pure (least, some least)
  expect "\x7d"
  skipBlanks
  let _ ← accept "?"
  pure bounds

/-- The flags of a group up to the colon or parenthesis behind them, which stays. -/
def groupFlags (seen : List Char) (on : Bool) (f : Flags) : List Char → Option (Flags × List Char × List Char)
  | [] => none
  | c :: rest =>
    if c = ':' || c = ')' then
      if seen.head? == some '-' then none else some (f, c :: rest, seen)
    else if seen.contains c then none
    else if c = '-' then groupFlags (c :: seen) false f rest
    else
      match f.set? c on with
      | some f => groupFlags (c :: seen) on f rest
      | none => none

def isNameChar (first : Bool) (c : Char) : Bool :=
  c = '_' || if first then Text.isAlphabetic c
    else c = '.' || c = '[' || c = ']' || Text.isAlphanumeric c

/-- The name of a group up to its closing angle. No two groups share one. -/
def groupName : Reader Unit := fun s =>
  let name := s.rest.takeWhile (· != '>')
  match name, s.rest.dropWhile (· != '>') with
  | first :: others, _ :: rest =>
    if isNameChar true first && others.all (isNameChar false) && !s.names.contains name then
      some ((), { s with rest := rest, names := name :: s.names })
    else none
  | _, _ => none

/-- How a group opens. -/
inductive Opening
  /-- The flags of the enclosing group are changed from here on. -/
  | directive
  /-- A group of its own, with its flags. -/
  | group (f : Flags)

/-- What stands between a group's parenthesis and its content. -/
def opening : Reader Opening := do
  skipBlanks
  let f ← flags
  if (← looksAt "?=") || (← looksAt "?!") || (← looksAt "?<=") || (← looksAt "?<!") then fail
  if (← accept "?P<") || (← accept "?<") then
    groupName
    pure (.group f)
  else if ← accept "?" then
    let (changed, seen) ← (fun s =>
      (groupFlags [] true f s.rest).map fun (changed, rest, seen) =>
        ((changed, seen), { s with rest := rest }) : Reader (Flags × List Char))
    if (← next) = ')' then
      if seen.isEmpty then fail
      setFlags changed
      pure .directive
    else pure (.group changed)
  else pure (.group f)

/-- The characters that a dot stands for. -/
def dot (f : Flags) : CharSet :=
  if f.dotMatchesAll then .all
  else if f.wideLineEnds then .complement (.ofChars ['\r', '\n'])
  else .complement (.single '\n')

def atomPattern (f : Flags) : Atom → Pattern
  | .literal c => .char (foldCase f (.single c))
  | .set s => .char s
  | .assertion a => .assertion a (if f.unicode then CharSet.wordPart else CharSet.asciiWordPart)

/-- A character, an escape, a dot, or an anchor. -/
def atom : Reader Pattern := do
  let f ← flags
  match ← next with
  | '\\' => pure (atomPattern f (← escape))
  | '.' => if f.unicode then pure (.char (dot f)) else fail
  | '^' =>
    pure (atomPattern f (.assertion
      (if !f.multiLine then .textStart else if f.wideLineEnds then .lineStartWide else .lineStart)))
  | '$' =>
    pure (atomPattern f (.assertion
      (if !f.multiLine then .textEnd else if f.wideLineEnds then .lineEndWide else .lineEnd)))
  | c => pure (atomPattern f (.literal c))

/-- Several parts one after another; the first of the list comes last. -/
def joined (parts : List (Option (Nested Pattern))) : Nested Pattern :=
  match parts with
  | [] => ⟨.empty, 0⟩
  | [some p] => p
  | _ =>
    let found := parts.filterMap id
    ⟨found.foldl (fun behind p => .sequence p.value behind) .empty,
      found.foldl (fun d p => max d p.depth) 0 + 1⟩

mutual

/-- Alternatives up to the end of a group or of the text. -/
def alternatives (branches : List (Nested Pattern)) : Nat → Reader (Nested Pattern)
  | 0 => fail
  | budget + 1 => do
    let branch ← parts [] budget
    if ← accept "|" then alternatives (branch :: branches) budget
    else if branches.isEmpty then pure branch
    else
      let all := branch :: branches
      pure ⟨branches.foldl (fun q p => .choice p.value q) branch.value,
        all.foldl (fun d p => max d p.depth) 0 + 1⟩

/-- The parts of one alternative; those read so far are listed backwards. A change of flags is a part
without a pattern. -/
def parts (sofar : List (Option (Nested Pattern))) : Nat → Reader (Nested Pattern)
  | 0 => fail
  | budget + 1 => do
    skipBlanks
    match ← peek? with
    | none => pure (joined sofar)
    | some c =>
      if c = '|' || c = ')' then pure (joined sofar)
      else if c = '(' then
        let _ ← next
        let outer ← flags
        match ← opening with
        | .directive => parts (none :: sofar) budget
        | .group inner =>
          setFlags inner
          let p ← alternatives [] budget
          expect ")"
          setFlags outer
          parts (some ⟨p.value, p.depth + 1⟩ :: sofar) budget
      else if c = '[' then
        let _ ← next
        let s ← bracketed budget
        parts (some ⟨.char s.value, s.depth⟩ :: sofar) budget
      else if c = '?' || c = '*' || c = '+' || c = '\x7b' then
        match sofar with
        | some p :: others =>
          let _ ← next
          let (least, most) ←
            if c = '\x7b' then counts
            else do
              let _ ← accept "?"
              pure (if c = '?' then (0, some 1) else if c = '*' then (0, none) else (1, none))
          parts (some ⟨.repetition p.value least most, p.depth + 1⟩ :: others) budget
        | _ => fail
      else
        let p ← atom
        parts (some ⟨p, 0⟩ :: sofar) budget

end

end Reader

/-- How deeply a pattern may be nested. -/
def nestingLimit : Nat := 250

/-- How much room a set of characters takes once it is written out, in bytes. -/
def CharSet.room : CharSet → Nat
  | .empty => 32
  | .interval low high => if high < 128 then 32 else if low = high then 96 else 160
  | .table runs => 8 * runs.lengths.length
  | .complement a | .anyCase a => a.room + 64
  | .union a b | .intersection a b | .difference a b | .symmetricDifference a b => a.room + b.room

/-- How much room a pattern takes once its repetitions are written out, in bytes. -/
def room : Pattern → Nat
  | .empty => 0
  | .char s => s.room
  | .assertion _ _ => 32
  | .sequence p q => room p + room q
  | .choice p q => room p + room q + 32
  | .repetition p least most =>
    match most with
    | some n => room p * n + 32 * (n - least)
    | none => room p * max least 1 + 64

/-- The room there is for one pattern. -/
def roomLimit : Nat := 10 * 0x100000

/-- Reads a pattern; none if it is not one. -/
def parse? (text : String) : Option Pattern :=
  let chars := text.toList
  match Reader.alternatives [] (4 * chars.length + 8) ⟨chars, .initial, []⟩ with
  | some (p, s) =>
    if s.rest.isEmpty && p.depth ≤ nestingLimit && room p.value ≤ roomLimit then some p.value else none
  | none => none

/-- Whether a text is a pattern. -/
def isValid (text : String) : Bool := (parse? text).isSome

/-- Whether a pattern, given by its text, occurs in another text. What is no pattern occurs nowhere. -/
def occursIn (pattern text : String) : Bool := (parse? pattern).any (·.isFoundIn text)

end ServiceGraph.Pattern
