import ServiceGraph.Decimal.Reading
import ServiceGraph.Json.Basic
import ServiceGraph.Text.Quoted

/-!
Reading a JSON document. Everything the format forbids is refused: leading zeros, lone surrogates,
controls inside strings, trailing commas, and text after the value. So are numbers too large for a
floating-point number, and values nested too deeply.

A number without fraction and exponent stays whole if it fits 64 bits; minus zero, and anything larger,
is a floating-point number.
-/

namespace ServiceGraph.Json

/-- A step of reading: a result and the characters it leaves. -/
abbrev Step (α : Type) := List Char → Option (α × List Char)

def isBlank (c : Char) : Bool := c = ' ' || c = '\n' || c = '\t' || c = '\r'

def skipBlanks (s : List Char) : List Char := s.dropWhile isBlank

/-! ## Strings -/

/-- The code of the four hexadecimal digits in front. -/
def readCode : Step Nat
  | a :: b :: c :: d :: rest => (Text.hexNumber? [a, b, c, d]).map (·, rest)
  | _ => none

/-- The character of a `\u` escape, its second half included if it is a surrogate pair. -/
def readUnicode (s : List Char) : Option (Char × List Char) := do
  let (high, rest) ← readCode s
  if 0xD800 ≤ high ∧ high < 0xDC00 then
    match rest with
    | '\\' :: 'u' :: rest' =>
      let (low, rest'') ← readCode rest'
      if 0xDC00 ≤ low ∧ low < 0xE000 then
        let c ← Text.charOfCode? (0x10000 + (high - 0xD800) * 0x400 + (low - 0xDC00))
        pure (c, rest'')
      else none
    | _ => none
  else
    let c ← Text.charOfCode? high
    pure (c, rest)

/-- The character of an escape after its backslash. -/
def readEscape : Step Char
  | '"' :: rest => some ('"', rest)
  | '\\' :: rest => some ('\\', rest)
  | '/' :: rest => some ('/', rest)
  | 'b' :: rest => some (Char.ofNat 8, rest)
  | 'f' :: rest => some (Char.ofNat 12, rest)
  | 'n' :: rest => some ('\n', rest)
  | 'r' :: rest => some ('\r', rest)
  | 't' :: rest => some ('\t', rest)
  | 'u' :: rest => readUnicode rest
  | _ => none

/-- The rest of a string after its opening quote. `fuel` bounds the number of characters. -/
def readStringBody : Nat → Step (List Char)
  | 0, _ => none
  | fuel + 1, s =>
    match s with
    | [] => none
    | '"' :: rest => some ([], rest)
    | '\\' :: rest => do
      let (c, rest') ← readEscape rest
      let (body, rest'') ← readStringBody fuel rest'
      pure (c :: body, rest'')
    | c :: rest =>
      if c.toNat < 32 then none
      else do
        let (body, rest') ← readStringBody fuel rest
        pure (c :: body, rest')

def readString (s : List Char) : Option (String × List Char) :=
  (readStringBody (s.length + 1) s).map fun (body, rest) => (String.ofList body, rest)

/-! ## Numbers -/

/-- The largest whole number that the digits of a number are gathered in. -/
def largestWhole : Nat := 0xffffffffffffffff

def digitValue (c : Char) : Nat := c.toNat - 48

def spanDigits (s : List Char) : List Char × List Char := s.span Char.isDigit

/-- Gathers digits into a whole number as long as it fits 64 bits, and tells how many digits did not
make it. -/
def gather (value : Nat) : List Char → Nat × Nat
  | [] => (value, 0)
  | c :: rest =>
    let next := value * 10 + digitValue c
    if next ≤ largestWhole then gather next rest else (value, rest.length + 1)

/-- The exponent part of a number, if there is one: its value, or none where it is left out. -/
def readExponent : Step (Option Int)
  | 'e' :: rest | 'E' :: rest =>
    let (negative, rest) := match rest with
      | '+' :: r => (false, r)
      | '-' :: r => (true, r)
      | r => (false, r)
    match spanDigits rest with
    | ([], _) => none
    | (digits, rest') =>
      let value : Int := ((digits.foldl (fun n c => n * 10 + digitValue c) 0 : Nat) : Int)
      some (some (if negative then -value else value), rest')
  | s => some (none, s)

/-- The fraction part of a number, if there is one. -/
def readFraction : Step (Option (List Char))
  | '.' :: rest =>
    match spanDigits rest with
    | ([], _) => none
    | (digits, rest') => some (some digits, rest')
  | s => some (none, s)

/-- The digits in front of the point: a zero alone, or no zero in front. -/
def readWhole (s : List Char) : Option (List Char × List Char) :=
  match spanDigits s with
  | ([], _) => none
  | ('0' :: _ :: _, _) => none
  | (digits, rest) => some (digits, rest)

/-- The value of a number's parts. -/
def numberOfParts (negative : Bool) (whole : List Char) (fraction : Option (List Char))
    (exponent : Option Int) : Option Number := do
  let (significand, dropped) := gather 0 whole
  if fraction.isNone ∧ exponent.isNone ∧ dropped = 0 then
    if !negative then some (.integer significand)
    else if significand = 0 then some (.float (-Float.ofNat 0))
    else if significand ≤ 0x8000000000000000 then some (.integer (-(significand : Int)))
    else some (.float (-Float.ofNat significand))
  else
    let digits := fraction.getD []
    let (significand, unused) := gather significand digits
    let point : Int := (dropped : Int) - ((digits.length - unused : Nat) : Int)
    let x ← Decimal.scaled? significand (point + exponent.getD 0)
    pure (.float (if negative then -x else x))

def readNumber (s : List Char) : Option (Number × List Char) := do
  let (negative, s) := match s with
    | '-' :: rest => (true, rest)
    | _ => (false, s)
  let (whole, s) ← readWhole s
  let (fraction, s) ← readFraction s
  let (exponent, s) ← readExponent s
  let n ← numberOfParts negative whole fraction exponent
  pure (n, s)

/-! ## Values -/

/-- Takes a word off the front. -/
def readWord (word : String) (value : Json) (s : List Char) : Option (Json × List Char) :=
  if word.toList.isPrefixOf s then some (value, s.drop word.length) else none

mutual

/-- One value, at most `depth` lists and objects deep, with blanks allowed in front. -/
def readValue (depth : Nat) (s : List Char) : Option (Json × List Char) :=
  match skipBlanks s with
  | '"' :: rest => (readString rest).map fun (t, rest') => (.string t, rest')
  | '[' :: rest =>
    match depth with
    | 0 => none
    | depth + 1 =>
      match skipBlanks rest with
      | ']' :: rest' => some (.array [], rest')
      | rest' => (readItems depth rest'.length rest').map fun (xs, r) => (.array xs, r)
  | '\x7b' :: rest =>
    match depth with
    | 0 => none
    | depth + 1 =>
      match skipBlanks rest with
      | '\x7d' :: rest' => some (.object [], rest')
      | rest' => (readMembers depth rest'.length rest').map fun (ms, r) => (ofMembers ms, r)
  | 't' :: rest => readWord "rue" (.bool true) rest
  | 'f' :: rest => readWord "alse" (.bool false) rest
  | 'n' :: rest => readWord "ull" .null rest
  | rest => (readNumber rest).map fun (n, r) => (.number n, r)
termination_by (depth, 0)

/-- The items of a list up to its closing bracket; `fuel` bounds their number. -/
def readItems (depth : Nat) : Nat → List Char → Option (List Json × List Char)
  | 0, _ => none
  | fuel + 1, s =>
    match readValue depth s with
    | none => none
    | some (x, s) =>
      match skipBlanks s with
      | ',' :: rest => (readItems depth fuel rest).map fun (xs, r) => (x :: xs, r)
      | ']' :: rest => some ([x], rest)
      | _ => none
termination_by fuel => (depth, fuel)

/-- The members of an object up to its closing brace; `fuel` bounds their number. -/
def readMembers (depth : Nat) : Nat → List Char → Option (List (String × Json) × List Char)
  | 0, _ => none
  | fuel + 1, s =>
    match skipBlanks s with
    | '"' :: rest =>
      match readString rest with
      | none => none
      | some (key, s) =>
        match skipBlanks s with
        | ':' :: rest =>
          match readValue depth rest with
          | none => none
          | some (x, s) =>
            match skipBlanks s with
            | ',' :: rest => (readMembers depth fuel rest).map fun (ms, r) => ((key, x) :: ms, r)
            | '\x7d' :: rest => some ([(key, x)], rest)
            | _ => none
        | _ => none
    | _ => none
termination_by fuel => (depth, fuel)

end

/-- How deeply lists and objects may be nested. -/
def nestingLimit : Nat := 127

/-- The value of a document nested at most `depth` deep. -/
def parseWithin? (depth : Nat) (text : String) : Option Json :=
  match readValue depth text.toList with
  | some (value, rest) => if (skipBlanks rest).isEmpty then some value else none
  | none => none

/-- The value of a document. -/
def parse? (text : String) : Option Json := parseWithin? nestingLimit text

end ServiceGraph.Json
