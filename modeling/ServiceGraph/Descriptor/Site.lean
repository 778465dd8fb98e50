import ServiceGraph.Descriptor.Basic
import ServiceGraph.Finding
import ServiceGraph.Shape.Catalog

/-!
Where descriptors come from. A graph knows nothing of places; while it is built and checked, every
descriptor is kept together with its site.
-/

namespace ServiceGraph

/-- The places of one descriptor. -/
structure Site where
  /-- The shape that declares it. -/
  shape : String
  /-- The name of that shape. -/
  span : Span
  fields : List (String × Span)
  /-- The entries of a list that a field holds. -/
  items : List Span
deriving Repr, DecidableEq, Inhabited

namespace Site

/-- The site of a shape's descriptor. -/
def ofShape (s : ShapeInfo) : Site :=
  ⟨s.name, s.decl.nameSpan, s.fields.map fun f => (f.name, f.field.span), []⟩

/-- The place of a field, or else of the shape's name. -/
def field (s : Site) (name : String) : Span := (s.fields.lookup name).getD s.span

end Site

/-- A descriptor and where it comes from. -/
structure Located (α : Type) where
  value : α
  site : Site
deriving Inhabited

/-- A graph in which every descriptor has its site. -/
structure LocatedGraph where
  service? : Option (Located Service)
  operations : List (Located Operation)
  prompts : List (Located Prompt)
  resources : List (Located Resource)
  groups : List (Located Group)
deriving Inhabited

namespace LocatedGraph

def empty : LocatedGraph := ⟨none, [], [], [], []⟩

/-- The graph without the sites. -/
def graph (g : LocatedGraph) : Graph :=
  ⟨g.service?.map (·.value), g.operations.map (·.value), g.prompts.map (·.value),
   g.resources.map (·.value), g.groups.map (·.value)⟩

end LocatedGraph

end ServiceGraph
