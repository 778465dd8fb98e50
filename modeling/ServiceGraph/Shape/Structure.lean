import ServiceGraph.Diagnostic
import ServiceGraph.Shape.Kind

/-!
What a shape declares itself: its bases, its own fields, and its members that are no fields. An
intersection of shapes extends each of the names in it, and an alias of a marker extends that marker;
any other alias has no structure.
-/

namespace ServiceGraph

open Syntax

structure ShapeStructure where
  decl : ShapeDecl
  bases : List TypeExpr
  fields : List Field
  skipped : List SkippedMember
  /-- Whether the shape describes objects, so that its fields tell what it is. -/
  isObjectLike : Bool
deriving Inhabited

namespace ShapeStructure

def name (s : ShapeStructure) : String := s.decl.name

/-- Adds one member of an intersection; one that is neither a name nor an object is reported. -/
def addMember (s : ShapeStructure) (member : TypeExpr) : ShapeStructure × List Diagnostic :=
  match member with
  | .reference _ _ _ => ({ s with bases := s.bases ++ [member] }, [])
  | .object _ fields skipped =>
    ({ s with fields := s.fields ++ fields, skipped := s.skipped ++ skipped }, [])
  | _ =>
    (s, [⟨.unsupportedConstruct, member.span,
      s!"only shape references and object types are merged in `{s.decl.name}`; this member is ignored"⟩])

/-- Adds the members of an intersection in order. -/
def addMembers (s : ShapeStructure) : List TypeExpr → ShapeStructure × List Diagnostic
  | [] => (s, [])
  | member :: rest =>
    let (s, found) := s.addMember member
    let (s, others) := s.addMembers rest
    (s, found ++ others)

/-- The structure of a declaration. -/
def ofDecl (decl : ShapeDecl) : ShapeStructure × List Diagnostic :=
  let isInterface := decl.form == .interface
  let plain : ShapeStructure := ⟨decl, decl.heritage, [], [], isInterface⟩
  match decl.type with
  | .object _ fields skipped =>
    ({ plain with fields := fields, skipped := skipped, isObjectLike := true }, [])
  | .intersection _ members =>
    if isInterface then (plain, []) else { plain with isObjectLike := true }.addMembers members
  | .reference _ name [] =>
    if !isInterface && (ShapeKind.ofMarker? (TypeExpr.lastSegment name)).isSome then
      ({ plain with bases := plain.bases ++ [decl.type], isObjectLike := true }, [])
    else (plain, [])
  | _ => (plain, [])

end ShapeStructure

/-- The declarations with different names; of two with one name the first stays and the second is
reported. -/
def firstDeclarations (decls : List ShapeDecl) : List ShapeDecl × List Diagnostic :=
  let step := fun (state : List ShapeDecl × List Diagnostic) (d : ShapeDecl) =>
    if state.1.any (·.name == d.name) then
      (state.1, state.2 ++ [⟨.duplicateName, d.nameSpan, s!"shape `{d.name}` is declared more than once"⟩])
    else (state.1 ++ [d], state.2)
  decls.foldl step ([], [])

end ServiceGraph
