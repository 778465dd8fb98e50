import ServiceGraph.Descriptor.Draft
import ServiceGraph.Proofs.Descriptor.Shapes
import ServiceGraph.Proofs.Schema.Notes

/-!
The draft of a graph as a whole.

* What a shape adds does not depend on what is there, but for a second service: the lists of a draft are
  the descriptors of the declared shapes, in order (`LocatedGraph.value_addAll`).
* What is noted of a shape is noted of the draft (`LocatedGraph.notes_ofShape_subset`), so that every
  descriptor of a draft is sound with the notes of the draft (`Draft.operation_sound` and its like).
* The reason for having no schema is shown as a warning, even if another warning repeats it
  (`Draft.exists_unsupported`).
-/

namespace ServiceGraph

open Syntax Noted

/-! ## 1. What one shape adds -/

namespace LocatedGraph

variable (ctx : TypeContext) (s : ShapeInfo)

/-- The service that a shape declares, if no service is there yet. -/
def serviceOf? : Option (Located Service) :=
  if s.kind = .service then (Service.ofShape ctx s none).value.map (⟨·, Site.ofShape s⟩) else none

def operationOf? : Option (Located Operation) :=
  if s.kind = .operation then (Operation.ofShape ctx s).value.map (⟨·, Site.ofShape s⟩) else none

def promptOf? : Option (Located Prompt) :=
  if s.kind = .prompt then (Prompt.ofShape ctx s).value.map (⟨·, Site.ofShape s⟩) else none

def resourceOf? : Option (Located Resource) :=
  if s.kind = .resource then (Resource.ofShape ctx s).value.map (⟨·, Site.ofShape s⟩) else none

def groupOf? : Option (Located Group) :=
  if s.kind = .group then
    (Group.ofShape ctx s).value.map fun found =>
      ⟨found.1, { Site.ofShape s with items := found.2 }⟩
  else none

/-- What all entries of a catalog declare; of several services the first one counts. -/
def ofEntries : LocatedGraph where
  service? := (ctx.catalog.shapes.filterMap (serviceOf? ctx)).head?
  operations := ctx.catalog.shapes.filterMap (operationOf? ctx)
  prompts := ctx.catalog.shapes.filterMap (promptOf? ctx)
  resources := ctx.catalog.shapes.filterMap (resourceOf? ctx)
  groups := ctx.catalog.shapes.filterMap (groupOf? ctx)

end LocatedGraph

namespace LocatedGraph

variable {ctx : TypeContext}

/-- One shape adds what it declares. -/
theorem value_add (ctx : TypeContext) (g : LocatedGraph) (s : ShapeInfo) : (g.add ctx s).value =
    { service? := g.service? <|> serviceOf? ctx s
      operations := g.operations ++ (operationOf? ctx s).toList
      prompts := g.prompts ++ (promptOf? ctx s).toList
      resources := g.resources ++ (resourceOf? ctx s).toList
      groups := g.groups ++ (groupOf? ctx s).toList } := by
  cases hk : s.kind with
  | service =>
    cases hs : g.service? with
    | none =>
      simp [add, hk, hs, serviceOf?, operationOf?, promptOf?, resourceOf?, groupOf?]
    | some e =>
      simp [add, hk, hs, serviceOf?, operationOf?, promptOf?, resourceOf?, groupOf?]
  | operation =>
    simp [add, hk, serviceOf?, operationOf?, promptOf?, resourceOf?, groupOf?, Option.toList_map]
  | prompt =>
    simp [add, hk, serviceOf?, operationOf?, promptOf?, resourceOf?, groupOf?, Option.toList_map]
  | resource =>
    simp [add, hk, serviceOf?, operationOf?, promptOf?, resourceOf?, groupOf?, Option.toList_map]
  | group =>
    simp [add, hk, serviceOf?, operationOf?, promptOf?, resourceOf?, groupOf?, Option.toList_map]
  | parameter =>
    simp [add, hk, serviceOf?, operationOf?, promptOf?, resourceOf?, groupOf?]

/-- Several shapes add what they declare, in order. -/
theorem value_addAll (ctx : TypeContext) : ∀ (shapes : List ShapeInfo) (g : LocatedGraph),
    (g.addAll ctx shapes).value =
      { service? := g.service? <|> shapes.findSome? (serviceOf? ctx)
        operations := g.operations ++ shapes.filterMap (operationOf? ctx)
        prompts := g.prompts ++ shapes.filterMap (promptOf? ctx)
        resources := g.resources ++ shapes.filterMap (resourceOf? ctx)
        groups := g.groups ++ shapes.filterMap (groupOf? ctx) }
  | [], g => by
      cases g
      simp [addAll]
  | s :: rest, g => by
      rw [addAll, value_bind, value_addAll ctx rest, value_add]
      have hlist : ∀ {α : Type} (xs : List α) (f : ShapeInfo → Option α),
          xs ++ (f s).toList ++ rest.filterMap f = xs ++ (s :: rest).filterMap f := by
        intro α xs f
        cases hf : f s <;> simp [hf]
      have hservice : ∀ o : Option (Located Service),
          ((o <|> serviceOf? ctx s) <|> rest.findSome? (serviceOf? ctx)) =
            (o <|> (s :: rest).findSome? (serviceOf? ctx)) := by
        intro o
        cases o <;> cases hf : serviceOf? ctx s <;> simp [hf]
      simp only [hlist, hservice]

/-! ## 2. What is noted -/

/-- What is noted of one of the shapes is noted of all. -/
theorem exists_notes_add_subset (ctx : TypeContext) {s : ShapeInfo} :
    ∀ (shapes : List ShapeInfo) (g : LocatedGraph), s ∈ shapes →
      ∃ g' : LocatedGraph, (g'.add ctx s).notes ⊆ (g.addAll ctx shapes).notes
  | t :: rest, g, h => by
      rw [addAll, notes_bind]
      rcases List.mem_cons.mp h with rfl | h
      · exact ⟨g, List.subset_append_left _ _⟩
      · obtain ⟨g', hsub⟩ := exists_notes_add_subset ctx rest (g.add ctx t).value h
        exact ⟨g', fun n hn => List.mem_append_right _ (hsub hn)⟩

variable {shapes : List ShapeInfo} {g : LocatedGraph} {s : ShapeInfo}

theorem notes_operation_subset (hs : s ∈ shapes) (hk : s.kind = .operation) :
    (Operation.ofShape ctx s).notes ⊆ (g.addAll ctx shapes).notes := by
  obtain ⟨g', hsub⟩ := exists_notes_add_subset ctx shapes g hs
  exact fun n hn => hsub (by simp [add, hk, hn])

theorem notes_prompt_subset (hs : s ∈ shapes) (hk : s.kind = .prompt) :
    (Prompt.ofShape ctx s).notes ⊆ (g.addAll ctx shapes).notes := by
  obtain ⟨g', hsub⟩ := exists_notes_add_subset ctx shapes g hs
  exact fun n hn => hsub (by simp [add, hk, hn])

theorem notes_resource_subset (hs : s ∈ shapes) (hk : s.kind = .resource) :
    (Resource.ofShape ctx s).notes ⊆ (g.addAll ctx shapes).notes := by
  obtain ⟨g', hsub⟩ := exists_notes_add_subset ctx shapes g hs
  exact fun n hn => hsub (by simp [add, hk, hn])

end LocatedGraph

/-- What may be noted of a shape, at places that satisfy a condition: a warning says that something has no
schema, or that a field has no meaning. -/
def Note.OfShape (ok : Span → Prop) : Note → Prop
  | .warning d => (d.code = .unsupportedConstruct ∨
      ∃ front, d.message = front ++ " field and is ignored") ∧ ok d.span
  | .problem d => ok d.span
  | .finding f => ok f.span

section

variable {ok : Span → Prop} {ctx : TypeContext} {s : ShapeInfo}

theorem Note.OfType.ofShape : ∀ n : Note, n.OfType ok → n.OfShape ok
  | .warning _, h => ⟨.inl h.1, h.2⟩
  | .problem _, h => h.elim
  | .finding _, h => h

namespace ShapeInfo

theorem Sited.field? (h : s.Sited ok) {name : String} {f : MergedField}
    (hf : s.field? name = some f) : f.field.Sited ok :=
  h.fields f (List.mem_of_find?_eq_some hf)

variable (h : s.Sited ok)

include h

theorem only_checkFields : Only (Note.OfShape ok) s.checkFields := by
  refine only_bind (only_forM fun f hf =>
    only_warn ⟨.inr ⟨_, rfl⟩, (h.fields f (List.mem_filter.mp hf).1).span⟩) fun _ => ?_
  exact (TypeSchema.only_warnSkipped h.skipped).mono Note.OfType.ofShape

omit h in
theorem only_textOf {f : MergedField} (hf : f.field.Sited ok) :
    Only (Note.OfShape ok) (s.textOf f) := by
  unfold textOf
  split
  · exact only_pure _
  · exact only_bind (only_report hf.span) fun _ => only_pure _

theorem only_text? (name : String) : Only (Note.OfShape ok) (s.text? name) := by
  unfold text?
  split
  · rename_i f hf
    exact only_textOf (h.field? hf)
  · exact only_pure _

theorem only_requiredText? (name : String) : Only (Note.OfShape ok) (s.requiredText? name) := by
  unfold requiredText?
  split
  · rename_i f hf
    exact only_textOf (h.field? hf)
  · exact only_bind (only_report h.nameSpan) fun _ => only_pure _

theorem only_flag (name : String) : Only (Note.OfShape ok) (s.flag name) := by
  unfold flag
  split
  · exact only_pure _
  · rename_i f hf
    split
    · exact only_pure _
    · exact only_bind (only_report (h.field? hf).span) fun _ => only_pure _

theorem only_description? (annotations : AnnotationTable) :
    Only (Note.OfShape ok) (s.description? annotations) := by
  unfold description?
  split
  · rename_i f hf
    exact only_textOf (h.field? hf)
  · exact only_pure _

omit h in
theorem only_schemaOf (hctx : ctx.Sited ok) {f : MergedField} (hf : f.field.Sited ok) :
    Only (Note.OfShape ok) (s.schemaOf ctx f) := by
  unfold schemaOf
  refine only_bind ((TypeSchema.only_ofDeclared hctx _ _ _ _ hf.type).mono Note.OfType.ofShape)
    fun t => ?_
  split
  · rename_i note hnote
    have htags : note.tags.Sited ok := hctx.annotations.get? hnote
    exact (Schema.only_withTags htags _ _).mono Note.OfType.ofShape
  · exact only_pure _

theorem only_objectFields? (hctx : ctx.Sited ok) (name : String) :
    Only (Note.OfShape ok) (s.objectFields? ctx name) := by
  unfold objectFields?
  split
  · exact only_pure _
  · rename_i f hf
    refine only_bind (only_schemaOf hctx (h.field? hf)) fun schema => ?_
    split
    · exact only_pure _
    · exact only_pure _
    · exact only_bind (only_report (h.field? hf).span) fun _ => only_pure _

end ShapeInfo

open ShapeInfo

variable (hctx : ctx.Sited ok) (h : s.Sited ok)

include h

theorem Service.only_ofShape (ctx : TypeContext) (earlier? : Option Service) :
    Only (Note.OfShape ok) (Service.ofShape ctx s earlier?) := by
  have hauth : ∀ f : MergedField, ok f.field.span → Only (Note.OfShape ok) (Auth.ofField f) := by
    intro f hf
    unfold Auth.ofField
    split
    · exact only_pure _
    · exact only_bind (only_report hf) fun _ => only_pure _
  unfold Service.ofShape
  refine only_bind (only_checkFields h) fun _ => only_bind (only_requiredText? h _) fun name =>
    only_bind (only_requiredText? h _) fun version =>
    only_bind (only_description? h _) fun description => ?_
  cases hf : s.field? "auth" with
  | none =>
    refine only_bind (only_pure _) fun auth => ?_
    split
    · exact only_pure _
    · exact only_bind (only_report h.nameSpan) fun _ => only_pure _
    · exact only_pure _
  | some f =>
    refine only_bind (hauth f (h.field? hf).span) fun auth => ?_
    split
    · exact only_pure _
    · exact only_bind (only_report h.nameSpan) fun _ => only_pure _
    · exact only_pure _

include hctx in
theorem Operation.only_ofShape : Only (Note.OfShape ok) (Operation.ofShape ctx s) := by
  have hlast : ∀ (name description : Option String) (params : Option (List SchemaField))
      (result : Option Schema), Only (Note.OfShape ok) (do
        let flags ← OperationFlags.ofShape s
        pure (name.map fun name =>
          (⟨name, description, .object (params.getD []), result, flags, none⟩ : Operation))) := by
    intro name description params result
    exact only_bind (only_bind (only_flag h _) fun _ => only_bind (only_flag h _) fun _ =>
      only_bind (only_flag h _) fun _ => only_bind (only_flag h _) fun _ =>
      only_bind (only_flag h _) fun _ => only_pure _) fun _ => only_pure _
  unfold Operation.ofShape
  refine only_bind (only_checkFields h) fun _ => only_bind (only_requiredText? h _) fun name =>
    only_bind (only_description? h _) fun description =>
    only_bind (only_objectFields? h hctx _) fun params => ?_
  cases hf : s.field? "result" with
  | none => exact hlast name description params none
  | some f =>
    refine only_bind ?_ fun result => hlast name description params result
    exact only_bind (only_schemaOf hctx (h.field? hf)) fun _ => only_pure _

include hctx in
theorem Prompt.only_ofShape : Only (Note.OfShape ok) (Prompt.ofShape ctx s) := by
  have hcontent : ∀ template? isDynamic,
      Only (Note.OfShape ok) (contentOf s template? isDynamic) := by
    intro template? isDynamic
    unfold contentOf
    split
    · exact only_pure _
    · exact only_pure _
    · exact only_bind (only_report h.nameSpan) fun _ => only_pure _
  exact only_bind (only_checkFields h) fun _ => only_bind (only_requiredText? h _) fun _ =>
    only_bind (only_description? h _) fun _ => only_bind (only_objectFields? h hctx _) fun _ =>
    only_bind (only_text? h _) fun _ => only_bind (only_flag h _) fun _ =>
    only_bind (hcontent _ _) fun _ => only_pure _

theorem Resource.only_ofShape (ctx : TypeContext) :
    Only (Note.OfShape ok) (Resource.ofShape ctx s) := by
  have hdata : ∀ f : MergedField, ok f.field.span → Only (Note.OfShape ok) (dataOf s f) := by
    intro f hf
    unfold dataOf
    split
    · exact only_pure _
    · exact only_bind (only_report hf) fun _ => only_pure _
  have hcontent : ∀ isDynamic, Only (Note.OfShape ok) (contentOf s isDynamic) := by
    intro isDynamic
    unfold contentOf
    cases hf : s.field? "data" with
    | none =>
      refine only_bind (only_pure none) fun data => ?_
      cases isDynamic with
      | false => exact only_bind (only_report h.nameSpan) fun _ => only_pure _
      | true => exact only_pure _
    | some f =>
      refine only_bind (hdata f (h.field? hf).span) fun data => ?_
      cases isDynamic with
      | false => exact only_pure _
      | true => exact only_bind (only_report h.nameSpan) fun _ => only_pure _
  have huriSpan : ok (((s.field? "uri").map (·.field.span)).getD s.decl.nameSpan) := by
    cases hf : s.field? "uri" with
    | none => exact h.nameSpan
    | some f => exact (h.field? hf).span
  have huri : ∀ uri isDynamic, Only (Note.OfShape ok) (checkUri s uri isDynamic) := by
    intro uri isDynamic
    unfold checkUri
    dsimp only
    split
    · refine only_bind (only_report huriSpan) fun _ => ?_
      split
      · exact only_report huriSpan
      · exact only_pure _
    · split
      · exact only_report huriSpan
      · exact only_pure _
  refine only_bind (only_checkFields h) fun _ => only_bind (only_requiredText? h _) fun uri =>
    only_bind (only_requiredText? h _) fun _ => only_bind (only_description? h _) fun _ =>
    only_bind (only_text? h _) fun _ => only_bind (only_flag h _) fun _ =>
    only_bind (only_flag h _) fun _ => only_bind (hcontent _) fun _ => ?_
  cases uri with
  | none => exact only_pure _
  | some uri => exact only_bind (huri _ _) fun _ => only_pure _

theorem Group.only_ofShape (ctx : TypeContext) : Only (Note.OfShape ok) (Group.ofShape ctx s) := by
  have hoperations : Only (Note.OfShape ok) (operationsOf s) := by
    unfold operationsOf
    split
    · exact only_bind (only_report h.nameSpan) fun _ => only_pure _
    · rename_i f hf
      split
      · exact only_pure _
      · exact only_bind (only_report (h.field? hf).span) fun _ => only_pure _
  exact only_bind (only_checkFields h) fun _ => only_bind (only_requiredText? h _) fun _ =>
    only_bind (only_description? h _) fun _ => only_bind hoperations fun _ => only_pure _

end

namespace LocatedGraph

variable {ok : Span → Prop} {ctx : TypeContext} (hctx : ctx.Sited ok)

include hctx

theorem only_add (g : LocatedGraph) {s : ShapeInfo} (h : s.Sited ok) :
    Only (Note.OfShape ok) (g.add ctx s) := by
  unfold add
  cases s.kind with
  | service => exact only_bind (Service.only_ofShape h ctx _) fun _ => only_pure _
  | operation => exact only_bind (Operation.only_ofShape hctx h) fun _ => only_pure _
  | prompt => exact only_bind (Prompt.only_ofShape hctx h) fun _ => only_pure _
  | resource => exact only_bind (Resource.only_ofShape h ctx) fun _ => only_pure _
  | group => exact only_bind (Group.only_ofShape h ctx) fun _ => only_pure _
  | parameter => exact only_pure _

theorem only_addAll : ∀ (shapes : List ShapeInfo) (g : LocatedGraph), (∀ s ∈ shapes, s.Sited ok) →
    Only (Note.OfShape ok) (g.addAll ctx shapes)
  | [], _, _ => only_pure _
  | s :: rest, g, h => only_bind (only_add hctx g (h s List.mem_cons_self)) fun g =>
      only_addAll rest g fun t ht => h t (List.mem_cons_of_mem _ ht)

end LocatedGraph

/-! ## 3. Drafts -/

namespace Draft

open LocatedGraph

variable {ctx : TypeContext}

/-- The shapes that declare something, in the order of their declarations. -/
def declaring (c : ShapeCatalog) : List ShapeInfo :=
  c.declarations.filterMap fun d => c.get? d.shape.name

theorem value_contentsOf (ctx : TypeContext) : (contentsOf ctx).value =
    { service? := (declaring ctx.catalog).findSome? (serviceOf? ctx)
      operations := (declaring ctx.catalog).filterMap (operationOf? ctx)
      prompts := (declaring ctx.catalog).filterMap (promptOf? ctx)
      resources := (declaring ctx.catalog).filterMap (resourceOf? ctx)
      groups := (declaring ctx.catalog).filterMap (groupOf? ctx) } := by
  change (LocatedGraph.empty.addAll ctx (declaring ctx.catalog)).value = _
  rw [value_addAll]
  simp [LocatedGraph.empty]

theorem notes_addAll_subset (ctx : TypeContext) :
    (LocatedGraph.empty.addAll ctx (declaring ctx.catalog)).notes ⊆ (contentsOf ctx).notes :=
  List.subset_append_left _ _

theorem mem_shapes_of_mem_declaring {c : ShapeCatalog} {s : ShapeInfo} (h : s ∈ declaring c) :
    s ∈ c.shapes := by
  obtain ⟨d, -, hd⟩ := List.mem_filterMap.mp h
  exact List.mem_of_find?_eq_some hd

theorem exists_operation {l : Located Operation} (h : l ∈ (contentsOf ctx).value.operations) :
    ∃ s ∈ declaring ctx.catalog, s.kind = .operation ∧
      (Operation.ofShape ctx s).value = some l.value ∧ l.site = Site.ofShape s := by
  rw [value_contentsOf] at h
  obtain ⟨s, hs, heq⟩ := List.mem_filterMap.mp h
  unfold operationOf? at heq
  split at heq
  · rename_i hk
    obtain ⟨o, ho, rfl⟩ := Option.map_eq_some_iff.mp heq
    exact ⟨s, hs, hk, ho, rfl⟩
  · simp at heq

theorem exists_prompt {l : Located Prompt} (h : l ∈ (contentsOf ctx).value.prompts) :
    ∃ s ∈ declaring ctx.catalog, s.kind = .prompt ∧
      (Prompt.ofShape ctx s).value = some l.value ∧ l.site = Site.ofShape s := by
  rw [value_contentsOf] at h
  obtain ⟨s, hs, heq⟩ := List.mem_filterMap.mp h
  unfold promptOf? at heq
  split at heq
  · rename_i hk
    obtain ⟨p, hp, rfl⟩ := Option.map_eq_some_iff.mp heq
    exact ⟨s, hs, hk, hp, rfl⟩
  · simp at heq

theorem exists_resource {l : Located Resource} (h : l ∈ (contentsOf ctx).value.resources) :
    ∃ s ∈ declaring ctx.catalog, s.kind = .resource ∧
      (Resource.ofShape ctx s).value = some l.value ∧ l.site = Site.ofShape s := by
  rw [value_contentsOf] at h
  obtain ⟨s, hs, heq⟩ := List.mem_filterMap.mp h
  unfold resourceOf? at heq
  split at heq
  · rename_i hk
    obtain ⟨r, hr, rfl⟩ := Option.map_eq_some_iff.mp heq
    exact ⟨s, hs, hk, hr, rfl⟩
  · simp at heq

theorem exists_group {l : Located Group} (h : l ∈ (contentsOf ctx).value.groups) :
    ∃ s ∈ declaring ctx.catalog, s.kind = .group ∧
      (Group.ofShape ctx s).value = some (l.value, l.site.items) ∧
        { l.site with items := [] } = Site.ofShape s := by
  rw [value_contentsOf] at h
  obtain ⟨s, hs, heq⟩ := List.mem_filterMap.mp h
  unfold groupOf? at heq
  split at heq
  · rename_i hk
    obtain ⟨found, hfound, rfl⟩ := Option.map_eq_some_iff.mp heq
    exact ⟨s, hs, hk, hfound, rfl⟩
  · simp at heq

theorem operation_sound (htable : ctx.annotations.Every (·.tags.Sound)) {l : Located Operation}
    (h : l ∈ (contentsOf ctx).value.operations) : l.value.Sound (contentsOf ctx).notes := by
  obtain ⟨s, hs, hk, ho, -⟩ := exists_operation h
  have hsub : (Operation.ofShape ctx s).notes ⊆ (contentsOf ctx).notes := fun n hn =>
    notes_addAll_subset ctx (notes_operation_subset hs hk hn)
  have hsound := Operation.ofShape_sound htable ho
  exact ⟨hsound.params, fun root hroot => (hsound.schemas root hroot).mono fun _ ha => ha.mono hsub,
    hsound.unbound⟩

theorem prompt_sound (htable : ctx.annotations.Every (·.tags.Sound)) {l : Located Prompt}
    (h : l ∈ (contentsOf ctx).value.prompts) : l.value.Sound (contentsOf ctx).notes := by
  obtain ⟨s, hs, hk, hp, -⟩ := exists_prompt h
  have hsub : (Prompt.ofShape ctx s).notes ⊆ (contentsOf ctx).notes := fun n hn =>
    notes_addAll_subset ctx (notes_prompt_subset hs hk hn)
  have hsound := Prompt.ofShape_sound htable hp
  exact ⟨fun root hroot => (hsound.schemas root hroot).mono fun _ ha => ha.mono hsub,
    hsound.unbound⟩

theorem resource_sound {l : Located Resource} (h : l ∈ (contentsOf ctx).value.resources) :
    l.value.Sound (contentsOf ctx).notes := by
  obtain ⟨s, hs, hk, hr, -⟩ := exists_resource h
  have hsub : (Resource.ofShape ctx s).notes ⊆ (contentsOf ctx).notes := fun n hn =>
    notes_addAll_subset ctx (notes_resource_subset hs hk hn)
  have hsound := Resource.ofShape_sound hr
  exact ⟨fun hclean => hsound.uri (hclean.mono hsub),
    fun hclean => hsound.dynamic (hclean.mono hsub), hsound.unbound⟩

/-- What is noted of a draft, where the places in the shapes satisfy a condition. -/
theorem only_contentsOf {ok : Span → Prop} (hctx : ctx.Sited ok) (horigin : ok Span.origin) :
    Only (Note.OfShape ok) (contentsOf ctx) := by
  have hshapes : ∀ s ∈ declaring ctx.catalog, s.Sited ok := fun s hs =>
    hctx.shapes s (mem_shapes_of_mem_declaring hs)
  refine only_bind (only_addAll hctx _ _ hshapes) fun g => only_bind ?_ fun _ => only_pure _
  unfold checkService
  split
  · exact only_pure _
  · exact only_report horigin

/-- A message about a missing schema is not one about a field without a meaning. -/
theorem noSchema_ne (reason front : String) :
    Note.noSchema reason ≠ front ++ " field and is ignored" := by
  intro h
  have hlast := congrArg (fun s : String => s.toList.getLast?) h
  have hend : Note.noSchema reason = reason ++ " cannot be translated to a schema" := rfl
  simp [hend] at hlast

/-- The reason for having no schema is shown as a warning. -/
theorem exists_unsupported {reason : String} {span : Span}
    (h : .warning ⟨.unsupportedConstruct, span, Note.noSchema reason⟩ ∈ (contentsOf ctx).notes) :
    ∃ d ∈ Note.diagnostics (contentsOf ctx).notes,
      d.code = .unsupportedConstruct ∧ d.message = Note.noSchema reason := by
  obtain ⟨d, hd, hn, hm⟩ := Note.exists_repeat_of_warning h
  refine ⟨d, hd, ?_, hm⟩
  rcases (only_contentsOf ctx.sited_true trivial _ hn).1 with hc | ⟨front, hfront⟩
  · exact hc
  · exact absurd (hm.symm.trans hfront) (noSchema_ne reason front)

end Draft

end ServiceGraph
