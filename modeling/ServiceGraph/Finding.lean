import ServiceGraph.Diagnostic

/-!
Findings, and values with notes.

A `Finding` is a problem with a tag: it is kept apart from the diagnostics until all descriptors are
known. What is computed from types and shapes comes as `Noted`: the value together with what was
noted on the way, in order. A note does not depend on the notes before it; that a shape which is expanded
several times repeats its warnings and findings is settled at the end, by `Note.diagnostics`
and `Note.findings`.
-/

namespace ServiceGraph

/-- What is wrong with a tag. -/
inductive FindingKind
  /-- The tag says nothing about schemas of this sort and was left out. -/
  | incompatible (tag schema : String)
  /-- A lower bound exceeds the upper one; both stay. -/
  | contradictory (low high : String)
  /-- The listed values are not those of the declared union. -/
  | enumMismatch (declared tagged : List String)
  | defaultViolation (reason : String)
  | defaultOnRequired
deriving Repr, DecidableEq, Inhabited

structure Finding where
  kind : FindingKind
  /-- The place of the tag. -/
  span : Span
  /-- The shape and the path of what is tagged. -/
  subject : String
deriving Repr, DecidableEq, Inhabited

inductive Note
  /-- A warning that is shown once for a place and a message. -/
  | warning (d : Diagnostic)
  | problem (d : Diagnostic)
  /-- A finding that is kept once. -/
  | finding (f : Finding)
deriving Repr, DecidableEq

namespace Note

/-- Whether two warnings start at one place and say the same. -/
def repeats (a b : Diagnostic) : Bool := a.span.start == b.span.start && a.message == b.message

/-- The diagnostics among the notes, where `shown` are the warnings so far. -/
def diagnosticsAfter (shown : List Diagnostic) : List Note → List Diagnostic
  | [] => []
  | .warning d :: rest =>
    if shown.any (repeats d) then diagnosticsAfter shown rest
    else d :: diagnosticsAfter (d :: shown) rest
  | .problem d :: rest => d :: diagnosticsAfter shown rest
  | .finding _ :: rest => diagnosticsAfter shown rest

/-- The diagnostics among the notes, with every warning once. -/
def diagnostics (notes : List Note) : List Diagnostic := diagnosticsAfter [] notes

/-- The findings among the notes, where `kept` are those so far. -/
def findingsAfter (kept : List Finding) : List Note → List Finding
  | [] => []
  | .finding f :: rest =>
    if kept.contains f then findingsAfter kept rest else f :: findingsAfter (f :: kept) rest
  | _ :: rest => findingsAfter kept rest

/-- The findings among the notes, each once. -/
def findings (notes : List Note) : List Finding := findingsAfter [] notes

end Note

/-- A value and what was noted while it was computed. -/
structure Noted (α : Type) where
  value : α
  notes : List Note

namespace Noted

instance : Monad Noted where
  pure a := ⟨a, []⟩
  bind x f := ⟨(f x.value).value, x.notes ++ (f x.value).notes⟩

def warn (code : Code) (span : Span) (message : String) : Noted Unit :=
  ⟨(), [.warning ⟨code, span, message⟩]⟩

def report (code : Code) (span : Span) (message : String) : Noted Unit :=
  ⟨(), [.problem ⟨code, span, message⟩]⟩

def find (kind : FindingKind) (span : Span) (subject : String) : Noted Unit :=
  ⟨(), [.finding ⟨kind, span, subject⟩]⟩

theorem value_pure {α : Type} (a : α) : (pure a : Noted α).value = a := rfl

theorem notes_pure {α : Type} (a : α) : (pure a : Noted α).notes = [] := rfl

theorem value_bind {α β : Type} (x : Noted α) (f : α → Noted β) :
    (x >>= f).value = (f x.value).value := rfl

theorem notes_bind {α β : Type} (x : Noted α) (f : α → Noted β) :
    (x >>= f).notes = x.notes ++ (f x.value).notes := rfl

end Noted

end ServiceGraph
