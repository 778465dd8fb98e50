import ServiceGraph.Text.Lines

/-!
Positions in an editor.

An editor counts lines from zero and columns in UTF-16 units, of which characters outside the basic plane
take two; a file's own places are byte offsets.

* `Position.ofOffset` finds the position of a byte offset.
* `cutAt` cuts a line at a column.
-/

namespace ServiceGraph.Editor

structure Position where
  line : Nat
  character : Nat
deriving Repr, DecidableEq, Inhabited

structure Range where
  start : Position
  stop : Position
deriving Repr, DecidableEq, Inhabited

/-- How many units a character takes. -/
def units (c : Char) : Nat := if c.toNat < 0x10000 then 1 else 2

/-- How many units a text takes. -/
def width (s : List Char) : Nat := s.foldr (fun c n => units c + n) 0

namespace Position

/-- The position behind a character. -/
def advance (p : Position) (c : Char) : Position :=
  if c = '\n' then ⟨p.line + 1, 0⟩ else ⟨p.line, p.character + units c⟩

/-- The position so many bytes behind `p`; inside a character it is the one behind it. -/
def after (p : Position) (bytes : Nat) : List Char → Position
  | [] => p
  | c :: rest => if bytes = 0 then p else (p.advance c).after (bytes - c.utf8Size) rest

/-- The position of a byte offset. -/
def ofOffset (text : List Char) (offset : Nat) : Position := after ⟨0, 0⟩ offset text

end Position

/-- Cuts a line at a column; inside a character the cut is behind it. None past the end of the line. -/
def cutAt (column : Nat) (line : List Char) : Option (List Char × List Char) :=
  if column = 0 then some ([], line)
  else
    match line with
    | [] => none
    | c :: rest => (cutAt (column - units c) rest).map fun (before, behind) => (c :: before, behind)

/-- A line of a text. -/
def lineAt? (text : List Char) (line : Nat) : Option (List Char) := (Text.lines text)[line]?

end ServiceGraph.Editor
