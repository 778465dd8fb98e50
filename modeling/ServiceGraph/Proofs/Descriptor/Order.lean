import ServiceGraph.Proofs.Descriptor.Draft
import ServiceGraph.Proofs.Keyed
import ServiceGraph.Proofs.Schema.Context

/-!
Drafts of declarations in another order.

What a shape declares depends on the context only through its description and the schemas of its fields
(`ShapeInfo.ReadsAlike`). So contexts that agree and whose declarations are permuted have the same
descriptors in a permuted order, and the same service if there is only one shape that could declare it
(`Draft.contentsOf_of_perm`).
-/

namespace ServiceGraph

variable {known : String → Bool} {ctx ctx' : TypeContext}

/-! ## 1. One shape -/

namespace ShapeInfo

/-- A shape whose descriptor is read alike in two contexts. -/
structure ReadsAlike (s : ShapeInfo) (ctx ctx' : TypeContext) : Prop where
  description : s.description? ctx'.annotations = s.description? ctx.annotations
  schema : ∀ f ∈ s.fields, s.schemaOf ctx' f = s.schemaOf ctx f

section

variable (h : ctx.AgreesOn known ctx') {s : ShapeInfo}

include h

theorem others_of_agrees (s : ShapeInfo) :
    ((s.others ctx).filter known).Perm ((s.others ctx').filter known) :=
  TypeSchema.free_erase h.names s.name

/-- A field has the same schema. -/
theorem schemaOf_eq_on (s : ShapeInfo) {f : MergedField} (hf : f.NamesIn known) :
    s.schemaOf ctx' f = s.schemaOf ctx f := by
  unfold schemaOf
  rw [TypeSchema.ofDeclared_eq_on h (others_of_agrees h s) hf.owner f.name f.type? hf.type,
    h.annotation f.owner f.name hf.owner]

theorem NamesIn.readsAlike (hs : s.NamesIn known) : s.ReadsAlike ctx ctx' where
  description := by
    unfold description? AnnotationTable.declaration?
    rw [h.annotation s.name "" hs.name]
  schema f hf := schemaOf_eq_on h s (hs.fields f hf)

end

theorem schemaOf_eq (h : ctx.Agrees ctx') (s : ShapeInfo) (f : MergedField) :
    s.schemaOf ctx' f = s.schemaOf ctx f :=
  schemaOf_eq_on h.on s f.namesIn_all

theorem objectFields?_eq {s : ShapeInfo} (h : s.ReadsAlike ctx ctx') (name : String) :
    s.objectFields? ctx' name = s.objectFields? ctx name := by
  unfold objectFields?
  cases hf : s.field? name with
  | none => rfl
  | some f => simp only [h.schema f (List.mem_of_find?_eq_some hf)]

end ShapeInfo

open ShapeInfo

section

variable {s : ShapeInfo} (h : s.ReadsAlike ctx ctx')

include h

theorem Service.ofShape_eq (earlier? : Option Service) :
    Service.ofShape ctx' s earlier? = Service.ofShape ctx s earlier? := by
  unfold Service.ofShape
  rw [h.description]

theorem Operation.ofShape_eq : Operation.ofShape ctx' s = Operation.ofShape ctx s := by
  unfold Operation.ofShape
  simp only [h.description, objectFields?_eq h]
  cases hf : s.field? "result" with
  | none => rfl
  | some f => simp only [h.schema f (List.mem_of_find?_eq_some hf)]

theorem Prompt.ofShape_eq : Prompt.ofShape ctx' s = Prompt.ofShape ctx s := by
  unfold Prompt.ofShape
  rw [h.description, objectFields?_eq h]

theorem Resource.ofShape_eq : Resource.ofShape ctx' s = Resource.ofShape ctx s := by
  unfold Resource.ofShape
  rw [h.description]

theorem Group.ofShape_eq : Group.ofShape ctx' s = Group.ofShape ctx s := by
  unfold Group.ofShape
  rw [h.description]

namespace LocatedGraph

theorem serviceOf?_eq : serviceOf? ctx' s = serviceOf? ctx s := by
  simp only [serviceOf?, Service.ofShape_eq h]

theorem operationOf?_eq : operationOf? ctx' s = operationOf? ctx s := by
  simp only [operationOf?, Operation.ofShape_eq h]

theorem promptOf?_eq : promptOf? ctx' s = promptOf? ctx s := by
  simp only [promptOf?, Prompt.ofShape_eq h]

theorem resourceOf?_eq : resourceOf? ctx' s = resourceOf? ctx s := by
  simp only [resourceOf?, Resource.ofShape_eq h]

theorem groupOf?_eq : groupOf? ctx' s = groupOf? ctx s := by
  simp only [groupOf?, Group.ofShape_eq h]

theorem add_eq (g : LocatedGraph) : g.add ctx' s = g.add ctx s := by
  unfold add
  simp only [Service.ofShape_eq h, Operation.ofShape_eq h, Prompt.ofShape_eq h,
    Resource.ofShape_eq h, Group.ofShape_eq h]

end LocatedGraph

end

/-! ## 2. All shapes -/

/-- The same graph in another order. -/
structure LocatedGraph.Reordered (g g' : LocatedGraph) : Prop where
  service : g'.service? = g.service?
  operations : g.operations.Perm g'.operations
  prompts : g.prompts.Perm g'.prompts
  resources : g.resources.Perm g'.resources
  groups : g.groups.Perm g'.groups

namespace Draft

open LocatedGraph

theorem declaring_of_perm {c c' : ShapeCatalog} (hget : ∀ name, c'.get? name = c.get? name)
    (hp : c.declarations.Perm c'.declarations) : (declaring c).Perm (declaring c') := by
  unfold declaring
  simp only [hget]
  exact hp.filterMap _

/-- Declarations in another order declare the same. -/
theorem contentsOf_of_perm (h : ctx.Agrees ctx')
    (hp : ctx.catalog.declarations.Perm ctx'.catalog.declarations)
    (hservice : ∀ s ∈ ctx.catalog.shapes, ∀ t ∈ ctx.catalog.shapes,
      s.kind = .service → t.kind = .service → s = t) :
    (contentsOf ctx).value.Reordered (contentsOf ctx').value := by
  have hdeclaring := declaring_of_perm h.shape hp
  have hall : ∀ s : ShapeInfo, s.ReadsAlike ctx ctx' := fun s => s.namesIn_all.readsAlike h.on
  have hservices : serviceOf? ctx' = serviceOf? ctx :=
    funext fun s => serviceOf?_eq (hall s)
  have hoperations : operationOf? ctx' = operationOf? ctx :=
    funext fun s => operationOf?_eq (hall s)
  have hprompts : promptOf? ctx' = promptOf? ctx := funext fun s => promptOf?_eq (hall s)
  have hresources : resourceOf? ctx' = resourceOf? ctx :=
    funext fun s => resourceOf?_eq (hall s)
  have hgroups : groupOf? ctx' = groupOf? ctx := funext fun s => groupOf?_eq (hall s)
  rw [value_contentsOf, value_contentsOf, hservices, hoperations, hprompts, hresources, hgroups]
  refine ⟨?_, ?_, ?_, ?_, ?_⟩
  · refine (Keyed.findSome?_of_perm hdeclaring fun s hs t ht x hx y hy => ?_).symm
    have hkind : ∀ {s : ShapeInfo} {x : Located Service}, x ∈ serviceOf? ctx s →
        s.kind = .service := by
      intro s x hx
      by_contra hk
      simp [serviceOf?, hk] at hx
    have heq := hservice s (mem_shapes_of_mem_declaring hs) t (mem_shapes_of_mem_declaring ht)
      (hkind hx) (hkind hy)
    rw [heq] at hx
    exact Option.mem_unique hx hy
  · exact hdeclaring.filterMap _
  · exact hdeclaring.filterMap _
  · exact hdeclaring.filterMap _
  · exact hdeclaring.filterMap _

end Draft

end ServiceGraph
