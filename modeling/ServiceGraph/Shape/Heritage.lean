import ServiceGraph.Shape.Structure

/-!
Heritage: the markers a shape reaches through its bases, and its fields together with those it
inherits.

Bases count from left to right, then the shape itself: a field replaces an earlier one of its name in
that one's place. A shape is resolved once and remembered. A base that is being resolved leads
back to where it came from; it is reported and left out. The walk carries the names of the shapes that
are not under way, and that list grows shorter at every step down, so the walk ends.
-/

namespace ServiceGraph

open Syntax

/-- Puts a field in the place of the one with its name, or at the end. -/
def mergeField (fields : List MergedField) (f : MergedField) : List MergedField :=
  match fields with
  | [] => [f]
  | g :: rest => if g.name == f.name then f :: rest else g :: mergeField rest f

/-- Merges fields in order. -/
def mergeFields (fields incoming : List MergedField) : List MergedField := incoming.foldl mergeField fields

/-- What a shape has, inherited or its own. -/
structure Resolved where
  markers : List ShapeKind
  fields : List MergedField
deriving Inhabited

namespace Resolved

def empty : Resolved := ⟨[], []⟩

def addMarker (r : Resolved) (kind : ShapeKind) : Resolved :=
  if r.markers.contains kind then r else { r with markers := r.markers ++ [kind] }

/-- Adds what a base has. -/
def inherit (r base : Resolved) : Resolved :=
  { markers := (base.markers.foldl addMarker r).markers, fields := mergeFields r.fields base.fields }

/-- Adds the fields that a shape declares itself. -/
def addOwn (r : Resolved) (s : ShapeStructure) : Resolved :=
  { r with fields := mergeFields r.fields (s.fields.map fun f => ⟨f, s.name⟩) }

end Resolved

/-- What the walk along the bases has found so far. -/
structure HeritageState where
  /-- The shapes resolved so far. -/
  resolved : List (String × Resolved)
  /-- The shapes that are a base of another one. -/
  usedAsBase : List String
  problems : List Diagnostic
deriving Inhabited

namespace Heritage

def start : HeritageState := ⟨[], [], []⟩

def addProblem (st : HeritageState) (code : Code) (span : Span) (message : String) : HeritageState :=
  { st with problems := st.problems ++ [⟨code, span, message⟩] }

/-- The structure of a name, if a shape of that name is declared. -/
def structureOf? (all : List ShapeStructure) (name : String) : Option ShapeStructure :=
  all.find? (·.name == name)

mutual

/-- Resolves a shape, with the names of those that are not under way. -/
def resolve (all : List ShapeStructure) (free : List String) (s : ShapeStructure)
    (st : HeritageState) : Resolved × HeritageState :=
  match st.resolved.lookup s.name with
  | some r => (r, st)
  | none =>
    let (inherited, st) := resolveBases all free s s.bases .empty st
    let r := inherited.addOwn s
    (r, { st with resolved := st.resolved ++ [(s.name, r)] })
termination_by (free.length, s.bases.length + 1)

/-- Adds what the bases of a shape have, from left to right. -/
def resolveBases (all : List ShapeStructure) (free : List String) (s : ShapeStructure)
    (bases : List TypeExpr) (r : Resolved) (st : HeritageState) : Resolved × HeritageState :=
  match bases with
  | [] => (r, st)
  | base :: rest =>
    match base.referenceName? with
    | none =>
      resolveBases all free s rest r <|
        addProblem st .unknownBase base.span s!"`{s.name}` extends something that is not a named shape"
    | some name =>
      match structureOf? all name with
      | some b =>
        if h : name ∈ free then
          have : (free.erase name).length < free.length := by
            rw [List.length_erase_of_mem h]
            have := List.length_pos_of_mem h
            omega
          let (inherited, st) :=
            resolve all (free.erase name) b { st with usedAsBase := name :: st.usedAsBase }
          resolveBases all free s rest (r.inherit inherited) st
        else
          resolveBases all free s rest r <|
            addProblem st .cyclicHeritage base.span
              s!"cyclic heritage: `{s.name}` extends `{name}`, which leads back to it"
      | none =>
        match ShapeKind.ofMarker? name with
        | some kind => resolveBases all free s rest (r.addMarker kind) st
        | none =>
          resolveBases all free s rest r <|
            addProblem st .unknownBase base.span s!"`{s.name}` extends unknown shape `{name}`"
termination_by (free.length, bases.length)

end

/-- Resolves all shapes in order. -/
def resolveAll (all : List ShapeStructure) : List (ShapeStructure × Resolved) × HeritageState :=
  let names := all.map (·.name)
  all.foldl
    (fun state s =>
      let (r, st) := resolve all (names.erase s.name) s state.2
      (state.1 ++ [(s, r)], st))
    ([], start)

end Heritage

end ServiceGraph
