/-!
Two ways of writing a text between quotes, and one way of reading it.

* `quote` writes a JSON string. Only the quote, the backslash and the controls below the blank are
  escaped.
* `unquote` reads a string literal of a declaration file: it takes a pair of quotes off and resolves
  the escapes. A hexadecimal escape that names no character is kept as it is written.

Every JSON string reads back as the text it was written for.
-/

namespace ServiceGraph.Text

/-- The hexadecimal digit of a number below 16, in lower case. -/
def hexDigit (n : Nat) : Char :=
  if n < 10 then Char.ofNat (48 + n) else Char.ofNat (87 + n)

/-- The value of a hexadecimal digit, in either case. -/
def hexValue? (c : Char) : Option Nat :=
  if '0' ≤ c ∧ c ≤ '9' then some (c.toNat - 48)
  else if 'a' ≤ c ∧ c ≤ 'f' then some (c.toNat - 87)
  else if 'A' ≤ c ∧ c ≤ 'F' then some (c.toNat - 55)
  else none

/-- The number written in hexadecimal digits; at least one digit is needed. -/
def hexNumber? : List Char → Option Nat
  | [] => none
  | digits => digits.foldlM (fun value c => (hexValue? c).map (value * 16 + ·)) 0

/-- A character's code in lower-case hexadecimal, without leading zeros. -/
def hexCode (n : Nat) : List Char :=
  (Nat.toDigits 16 n)

/-- The character with a code, unless the code is a surrogate or too large. -/
def charOfCode? (n : Nat) : Option Char :=
  if h : n.isValidChar then some (Char.ofNatAux n h) else none

/-! ## JSON strings -/

/-- How one character is written inside a JSON string. -/
def quoteChar (c : Char) : List Char :=
  if c = '"' then ['\\', '"']
  else if c = '\\' then ['\\', '\\']
  else if c = '\n' then ['\\', 'n']
  else if c = '\r' then ['\\', 'r']
  else if c = '\t' then ['\\', 't']
  else if c.toNat = 8 then ['\\', 'b']
  else if c.toNat = 12 then ['\\', 'f']
  else if c.toNat < 32 then ['\\', 'u', '0', '0', hexDigit (c.toNat / 16), hexDigit (c.toNat % 16)]
  else [c]

/-- The inside of the JSON string for a text. -/
def quoteBody (s : List Char) : List Char := s.flatMap quoteChar

/-- The JSON string for a text, quotes included. -/
def quote (s : String) : String :=
  String.ofList ('"' :: quoteBody s.toList ++ ['"'])

/-! ## String literals -/

/-- What a `\u` escape stands for, given the up to four characters after it. A plus sign in front
of the digits is let through; anything that names no character stays as it is written. -/
def unicodeEscape (digits : List Char) : List Char :=
  let number? := match digits with
    | '+' :: rest => hexNumber? rest
    | _ => hexNumber? digits
  match number?.bind charOfCode? with
  | some c => [c]
  | none => '\\' :: 'u' :: digits

/-- Resolves the escapes of a literal's inside. A backslash before a character without a meaning of
its own just disappears. -/
def resolveEscapes : List Char → List Char
  | [] => []
  | ['\\'] => ['\\']
  | '\\' :: 'u' :: a :: b :: c :: d :: rest => unicodeEscape [a, b, c, d] ++ resolveEscapes rest
  | '\\' :: 'u' :: digits => unicodeEscape digits
  | '\\' :: 'n' :: rest => '\n' :: resolveEscapes rest
  | '\\' :: 't' :: rest => '\t' :: resolveEscapes rest
  | '\\' :: 'r' :: rest => '\r' :: resolveEscapes rest
  | '\\' :: '0' :: rest => Char.ofNat 0 :: resolveEscapes rest
  | '\\' :: c :: rest => c :: resolveEscapes rest
  | c :: rest => c :: resolveEscapes rest

/-- Takes one pair of equal quotes off a literal, if it stands between two. -/
def stripQuotes (raw : List Char) : List Char :=
  match raw with
  | q :: rest =>
    if (q = '"' ∨ q = '\'' ∨ q = '\x60') ∧ rest.getLast? = some q then rest.dropLast else raw
  | [] => []

/-- The text that a string literal stands for. -/
def unquote (raw : String) : String :=
  String.ofList (resolveEscapes (stripQuotes raw.toList))

end ServiceGraph.Text
