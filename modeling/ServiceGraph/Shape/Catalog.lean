import ServiceGraph.Shape.Heritage

/-!
The catalog of a file's shapes: what each of them is, and which of them declare descriptors.

A shape with markers is of one of their kinds; one without is of a kind whose fields it has. Of
several kinds that one counts of which most fields are literals; if two kinds tie, the shape is
reported and counts as a parameter shape. A shape that others extend, and that does not name itself, is
only a base.
-/

namespace ServiceGraph

open Syntax

/-- A shape with its heritage resolved and its kind decided. -/
structure ShapeInfo where
  decl : ShapeDecl
  /-- The markers it reaches, in the order in which they are found. -/
  markers : List ShapeKind
  fields : List MergedField
  skipped : List SkippedMember
  isObjectLike : Bool
  kind : ShapeKind
deriving Inhabited

namespace ShapeInfo

def name (s : ShapeInfo) : String := s.decl.name

def field? (s : ShapeInfo) (name : String) : Option MergedField := ShapeKind.fieldNamed? s.fields name

end ShapeInfo

/-- A shape that declares a descriptor. -/
structure Declaration where
  kind : ShapeKind
  shape : ShapeDecl
deriving Inhabited

structure ShapeCatalog where
  shapes : List ShapeInfo
  /-- The descriptor declarations, in the order of the file. -/
  declarations : List Declaration
deriving Inhabited

namespace ShapeCatalog

def get? (c : ShapeCatalog) (name : String) : Option ShapeInfo := c.shapes.find? (·.name == name)

/-- The kinds that a shape may be of. -/
def candidates (s : ShapeStructure) (r : Resolved) : List ShapeKind :=
  if !r.markers.isEmpty then r.markers
  else if s.isObjectLike then ShapeKind.descriptors.filter (·.matchesFields r.fields)
  else []

/-- Those of the kinds that have most literal fields. -/
def winners (kinds : List ShapeKind) (fields : List MergedField) : List ShapeKind :=
  let best := kinds.foldl (fun n k => max n (k.specificity fields)) 0
  kinds.filter (·.specificity fields == best)

/-- Decides the kind of a shape. -/
def classify (s : ShapeStructure) (r : Resolved) : ShapeKind × List Diagnostic :=
  match winners (candidates s r) r.fields with
  | [] => (.parameter, [])
  | [kind] => (kind, [])
  | kinds =>
    let names := " and ".intercalate (kinds.map (·.displayName))
    (.parameter, [⟨.ambiguousCategory, s.decl.nameSpan,
      s!"ambiguous declaration category for `{s.name}`: matches {names} equally well"⟩])

/-- Whether the fields lack the string literal that identifies a declaration of the kind. -/
def lacksIdentity (kind : ShapeKind) (fields : List MergedField) : Bool :=
  match kind.identifyingField? with
  | some name => !fields.any fun f => f.name == name && f.isPinned
  | none => false

/-- The catalog of a file, and the problems found on the way. -/
def ofFile (file : SourceFile) : ShapeCatalog × List Diagnostic :=
  let (decls, duplicates) := firstDeclarations file.shapes
  let structured := decls.map ShapeStructure.ofDecl
  let (resolved, st) := Heritage.resolveAll (structured.map (·.1))
  let classified := resolved.map fun (s, r) => (s, r, classify s r)
  let shapes := classified.map fun (s, r, kind, _) =>
    (⟨s.decl, r.markers, r.fields, s.skipped, s.isObjectLike, kind⟩ : ShapeInfo)
  let declarations := shapes.filterMap fun s =>
    let isBase := st.usedAsBase.contains s.name && lacksIdentity s.kind s.fields
    if s.kind != .parameter && !isBase then some (⟨s.kind, s.decl⟩ : Declaration) else none
  (⟨shapes, declarations⟩,
    duplicates ++ structured.flatMap (·.2) ++ st.problems ++ classified.flatMap (·.2.2.2))

end ShapeCatalog

end ServiceGraph
