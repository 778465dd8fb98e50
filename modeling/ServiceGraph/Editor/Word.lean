import ServiceGraph.Editor.Position

/-!
The word under a cursor, and whether the cursor stands in a tag.

A word is a run of ASCII letters, digits and underscores that touches the cursor. A tag is an `@` with
what there is of its name.
-/

namespace ServiceGraph.Editor

def isWordChar (c : Char) : Bool := c.isAlphanum || c = '_'

/-- The word at the end of a text, and what stands before it. -/
def splitLastWord (s : List Char) : List Char × List Char :=
  let reversed := s.reverse
  ((reversed.dropWhile isWordChar).reverse, (reversed.takeWhile isWordChar).reverse)

structure Word where
  range : Range
  text : List Char
  /-- Whether an `@` stands right before the word. -/
  followsAt : Bool
deriving Repr, DecidableEq, Inhabited

/-- The word at a position. -/
def wordAt? (text : List Char) (p : Position) : Option Word := do
  let line ← lineAt? text p.line
  let (before, behind) ← cutAt p.character line
  let (lead, front) := splitLastWord before
  let word := front ++ behind.takeWhile isWordChar
  if word.isEmpty then none
  else
    let start := width lead
    some ⟨⟨⟨p.line, start⟩, ⟨p.line, start + width word⟩⟩, word, lead.getLast? == some '@'⟩

/-- The answer to whether a cursor stands in a tag. -/
inductive TagPosition
  | inside
  | outside
  /-- A character of several bytes stands before the word. The search for the `@` looks at the byte
  behind the first one of that character, which is no place to cut at. -/
  | undecided
deriving Repr, DecidableEq, Inhabited

/-- Whether a cursor behind a text stands in a tag. -/
def tagPositionAfter (before : List Char) : TagPosition :=
  match (splitLastWord before).1.getLast? with
  | none => .outside
  | some c => if 1 < c.utf8Size then .undecided else if c = '@' then .inside else .outside

/-- Whether a position is in a tag. Past the end of a line the end counts. -/
def tagPositionAt (text : List Char) (p : Position) : TagPosition :=
  match lineAt? text p.line with
  | none => .outside
  | some line => tagPositionAfter (((cutAt p.character line).map (·.1)).getD line)

end ServiceGraph.Editor
