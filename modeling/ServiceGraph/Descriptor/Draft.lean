import ServiceGraph.Descriptor.OfShape

/-!
The draft of a file's graph: all its declarations read in order. A declaration adds one descriptor with
its site, or nothing. The descriptors of a draft are not bound yet, and the findings about tags are
still to be reported.
-/

namespace ServiceGraph

namespace LocatedGraph

/-- Adds the descriptor that a shape declares. -/
def add (ctx : TypeContext) (g : LocatedGraph) (s : ShapeInfo) : Noted LocatedGraph := do
  let site := Site.ofShape s
  match s.kind with
  | .service =>
    let found ← Service.ofShape ctx s (g.service?.map (·.value))
    return { g with service? := g.service? <|> found.map (⟨·, site⟩) }
  | .operation =>
    let found ← Operation.ofShape ctx s
    return { g with operations := g.operations ++ found.toList.map (⟨·, site⟩) }
  | .prompt =>
    let found ← Prompt.ofShape ctx s
    return { g with prompts := g.prompts ++ found.toList.map (⟨·, site⟩) }
  | .resource =>
    let found ← Resource.ofShape ctx s
    return { g with resources := g.resources ++ found.toList.map (⟨·, site⟩) }
  | .group =>
    let found ← Group.ofShape ctx s
    return { g with groups :=
      g.groups ++ found.toList.map fun (group, items) => ⟨group, { site with items := items }⟩ }
  | .parameter => return g

/-- Adds what several shapes declare, in order. -/
def addAll (ctx : TypeContext) (g : LocatedGraph) : List ShapeInfo → Noted LocatedGraph
  | [] => pure g
  | s :: rest => do
    let g ← g.add ctx s
    g.addAll ctx rest

end LocatedGraph

structure Draft where
  contents : LocatedGraph
  findings : List Finding
deriving Inhabited

namespace Draft

/-- Reports that a catalog declares no service. -/
def checkService (c : ShapeCatalog) : Noted Unit :=
  if c.declarations.any (·.kind == .service) then pure ()
  else Noted.report .missingService Span.origin "no service declaration found"

/-- Reads all declarations of a catalog. -/
def contentsOf (ctx : TypeContext) : Noted LocatedGraph := do
  let shapes := ctx.catalog.declarations.filterMap fun d => ctx.catalog.get? d.shape.name
  let g ← LocatedGraph.empty.addAll ctx shapes
  checkService ctx.catalog
  return g

/-- The draft of all declarations of a catalog, and what is wrong with them. -/
def ofCatalog (catalog : ShapeCatalog) (annotations : AnnotationTable) : Draft × List Diagnostic :=
  let contents := contentsOf ⟨catalog, annotations⟩
  (⟨contents.value, Note.findings contents.notes⟩, Note.diagnostics contents.notes)

end Draft

end ServiceGraph
