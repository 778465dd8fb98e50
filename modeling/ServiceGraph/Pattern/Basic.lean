import ServiceGraph.Pattern.CharSet

/-!
Regular expressions and where they match.

`ends` gives the places at which a match that starts at a place may end; a pattern is found in a text if
some place starts a match. The order in which alternatives are tried plays no part, since only
whether there is a match is ever asked.
-/

namespace ServiceGraph

/-- Conditions on a place between two characters. -/
inductive Pattern.Assertion
  | textStart
  | textEnd
  | lineStart
  | lineEnd
  /-- The start of a line, where carriage returns end lines too. -/
  | lineStartWide
  | lineEndWide
  | wordBoundary
  | noWordBoundary
  | wordStart
  | wordEnd
  | wordStartHalf
  | wordEndHalf
deriving Repr, DecidableEq

inductive Pattern
  | empty
  | char (set : Pattern.CharSet)
  /-- A condition, with the characters that count as part of a word. -/
  | assertion (a : Pattern.Assertion) (word : Pattern.CharSet)
  | sequence (p q : Pattern)
  | choice (p q : Pattern)
  /-- At least `least` times, and at most `most` times if there is a bound. -/
  | repetition (p : Pattern) (least : Nat) (most : Option Nat)
deriving Repr, Inhabited

namespace Pattern

/-- Whether a condition holds between the characters `before` and `behind`. -/
def Assertion.holds (word : CharSet) (before behind : Option Char) : Assertion → Bool
  | .textStart => before.isNone
  | .textEnd => behind.isNone
  | .lineStart => before.all (· == '\n')
  | .lineEnd => behind.all (· == '\n')
  | .lineStartWide =>
    before.all (fun c => c == '\n' || (c == '\r' && behind != some '\n'))
  | .lineEndWide =>
    behind.all (fun c => c == '\r' || (c == '\n' && before != some '\r'))
  | .wordBoundary => before.any word.contains != behind.any word.contains
  | .noWordBoundary => before.any word.contains == behind.any word.contains
  | .wordStart => !before.any word.contains && behind.any word.contains
  | .wordEnd => before.any word.contains && !behind.any word.contains
  | .wordStartHalf => !before.any word.contains
  | .wordEndHalf => !behind.any word.contains

/-- The character in front of a place. -/
def before (text : Array Char) (place : Nat) : Option Char :=
  if place = 0 then none else text[place - 1]?

/-- Applies a step to all places, each kept once. -/
def advance (step : Nat → List Nat) (places : List Nat) : List Nat := (places.flatMap step).eraseDups

/-- The places reached in at most `count` steps. It stops early once nothing new is reached. -/
def reach (step : Nat → List Nat) : Nat → List Nat → List Nat → List Nat
  | 0, seen, _ => seen
  | count + 1, seen, frontier =>
    let fresh := (advance step frontier).filter (!seen.contains ·)
    if fresh.isEmpty then seen else reach step count (seen ++ fresh) fresh

/-- The places after exactly `count` steps. -/
def iterate (step : Nat → List Nat) : Nat → List Nat → List Nat
  | 0, places => places
  | count + 1, places => iterate step count (advance step places)

/-- Where a match that starts at `place` may end. -/
def ends (text : Array Char) : Pattern → Nat → List Nat
  | .empty, place => [place]
  | .char set, place =>
    match text[place]? with
    | some c => if set.contains c then [place + 1] else []
    | none => []
  | .assertion a word, place =>
    if a.holds word (before text place) text[place]? then [place] else []
  | .sequence p q, place => advance (ends text q) (ends text p place)
  | .choice p q, place => (ends text p place ++ ends text q place).eraseDups
  | .repetition p least most, place =>
    let start := iterate (ends text p) least [place]
    let further := match most with
      | some n => min (n - least) (text.size + 1)
      | none => text.size + 1
    reach (ends text p) further start start

/-- Whether the pattern occurs anywhere in a text. -/
def isFoundIn (p : Pattern) (text : String) : Bool :=
  let chars := text.toList.toArray
  (List.range (chars.size + 1)).any (fun place => !(ends chars p place).isEmpty)

end Pattern

end ServiceGraph
