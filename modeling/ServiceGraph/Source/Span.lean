/-!
Places in a source text. Offsets and columns count bytes of UTF-8; lines and columns start at one, and
only a line feed ends a line.
-/

namespace ServiceGraph

/-- A stretch of a source text, with the line and column at which it starts. -/
structure Span where
  start : Nat
  stop : Nat
  line : Nat
  column : Nat
deriving Repr, DecidableEq, Inhabited

/-- A place between two characters. -/
structure Mark where
  offset : Nat
  line : Nat
  column : Nat
deriving Repr, DecidableEq, Inhabited

namespace Mark

/-- The beginning of a text. -/
def origin : Mark := ⟨0, 1, 1⟩

/-- The place behind one more character. -/
def step (m : Mark) (c : Char) : Mark :=
  if c = '\n' then ⟨m.offset + 1, m.line + 1, 1⟩
  else ⟨m.offset + c.utf8Size, m.line, m.column + c.utf8Size⟩

/-- The place behind a piece of text. -/
def after (m : Mark) (s : List Char) : Mark := s.foldl step m

@[simp] theorem after_nil (m : Mark) : m.after [] = m := rfl

@[simp] theorem after_cons (m : Mark) (c : Char) (s : List Char) :
    m.after (c :: s) = (m.step c).after s := rfl

theorem after_append (m : Mark) (s t : List Char) : m.after (s ++ t) = (m.after s).after t := by
  simp [after, List.foldl_append]

/-- The stretch from one place to another. -/
def upTo (m : Mark) (stop : Nat) : Span := ⟨m.offset, stop, m.line, m.column⟩

end Mark

namespace Span

/-- No place at all: what has never been written down points here. -/
def none : Span := ⟨0, 0, 0, 0⟩

/-- The empty place at the start of a text. -/
def origin : Span := ⟨0, 0, 1, 1⟩

/-- The first place of a text, one byte wide. -/
def first : Span := ⟨0, 1, 1, 1⟩

/-- The same start with another end. -/
def upTo (s : Span) (stop : Nat) : Span := ⟨s.start, stop, s.line, s.column⟩

/-- The place at which a stretch starts. -/
def mark (s : Span) : Mark := ⟨s.start, s.line, s.column⟩

end Span

end ServiceGraph
