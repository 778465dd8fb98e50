/-!
Sets of code points written as runs: alternately how many code points are left out and how many
are taken, from zero upwards. `[65, 26, 6, 26]` is the ASCII letters. The form is short enough to
hold a whole character property in a string, and membership is one walk along the list.
-/

namespace ServiceGraph.Text

/-- The numbers written in a text, in decimal and with anything else between them. -/
def naturals (s : String) : List Nat :=
  let step := fun (c : Char) (state : Option (Nat × Nat) × List Nat) =>
    match state.1 with
    | none => if c.isDigit then (some (c.toNat - 48, 10), state.2) else state
    | some (value, place) =>
      if c.isDigit then (some (value + (c.toNat - 48) * place, place * 10), state.2)
      else (none, value :: state.2)
  match s.toList.foldr step (none, []) with
  | (some (value, _), found) => value :: found
  | (none, found) => found

/-- A set of code points as alternating gaps and runs. -/
structure Runs where
  lengths : List Nat
deriving Repr, Inhabited

namespace Runs

/-- Reads the lengths from a text. -/
def ofText (s : String) : Runs := ⟨naturals s⟩

/-- Whether position `n` of a gap-and-run list falls into a run. -/
def member : List Nat → Nat → Bool
  | gap :: run :: rest, n =>
    if n < gap then false else if n < gap + run then true else member rest (n - (gap + run))
  | _, _ => false

def contains (r : Runs) (c : Char) : Bool := member r.lengths c.toNat

theorem member_nil (n : Nat) : member [] n = false := by simp [member]

theorem member_gap {gap run : Nat} {rest : List Nat} {n : Nat} (h : n < gap) :
    member (gap :: run :: rest) n = false := by simp [member, h]

theorem member_run {gap run : Nat} {rest : List Nat} {n : Nat} (h₁ : gap ≤ n) (h₂ : n < gap + run) :
    member (gap :: run :: rest) n = true := by simp [member, Nat.not_lt.mpr h₁, h₂]

end Runs

end ServiceGraph.Text
