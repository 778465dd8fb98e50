import ServiceGraph.Text.Property

/-!
Cutting texts: at line breaks, at a separator, and at white space on either end.
-/

namespace ServiceGraph.Text

/-- The pieces between the characters that satisfy `p`; always one more than there are of them. -/
def splitOnChar (p : Char → Bool) : List Char → List (List Char)
  | [] => [[]]
  | c :: rest =>
    if p c then [] :: splitOnChar p rest
    else
      match splitOnChar p rest with
      | piece :: pieces => (c :: piece) :: pieces
      | [] => [[c]]

/-- A text without the white space in front. -/
def trimStart (s : List Char) : List Char := s.dropWhile isWhiteSpace

/-- A text without the white space behind. -/
def trimEnd (s : List Char) : List Char := (s.reverse.dropWhile isWhiteSpace).reverse

/-- A text without white space on either end. -/
def trim (s : List Char) : List Char := trimEnd (trimStart s)

/-- `trim` on strings. -/
def trimmed (s : String) : String := String.ofList (trim s.toList)

/-- How many bytes a text takes in UTF-8. -/
def byteLength (s : List Char) : Nat := s.foldr (fun c n => c.utf8Size + n) 0

/-- The rest of `s` after `lead`, if it starts with it. -/
def stripLead? (lead s : List Char) : Option (List Char) :=
  if lead.isPrefixOf s then some (s.drop lead.length) else none

/-- `s` without `lead` in front; unchanged if it does not start with it. -/
def dropLead (lead s : List Char) : List Char := (stripLead? lead s).getD s

/-- `s` without `tail` behind; unchanged if it does not end with it. -/
def dropTail (tail s : List Char) : List Char :=
  if tail.isSuffixOf s then s.take (s.length - tail.length) else s

/-- The lines of a text. A line ends at a line feed, which takes one carriage return before it
along; what follows the last line feed is a line only if it is not empty. -/
def lines (s : List Char) : List (List Char) :=
  let pieces := splitOnChar (· = '\n') s
  let ended := pieces.dropLast.map (dropTail ['\r'])
  match pieces.getLast? with
  | some [] => ended
  | some last => ended ++ [last]
  | none => ended

theorem splitOnChar_ne_nil (p : Char → Bool) (s : List Char) : splitOnChar p s ≠ [] := by
  induction s with
  | nil => simp [splitOnChar]
  | cons c rest ih =>
    unfold splitOnChar
    split
    · simp
    · split <;> simp

end ServiceGraph.Text
