import ServiceGraph.Proofs.Annotation.Lookup
import ServiceGraph.Proofs.Descriptor.Order
import ServiceGraph.Proofs.Graph.Consistent
import ServiceGraph.Proofs.Shape.Removal

/-!
What is wrong with one shape stays in it.

A shape that no other one names can be taken out of a file, and all that the graph loses is what the shape
declares (`Analysis.contents_without`): the other shapes keep their entries, find the same comments and read
their types in contexts that agree on all names but one. So two files that differ in such a shape only
have the same graph but for its descriptor (`Analysis.contents_eq_of_without`).

The shape may have made others count as bases. A base that names itself is declared all the same, and
one that does not would declare nothing (`Draft.filterMap_declaring`), so this makes no difference.
-/

namespace ServiceGraph

open Syntax

/-! ## 1. Shapes that declare nothing -/

namespace ShapeInfo

variable {s : ShapeInfo} {ctx : TypeContext}

/-- A shape that only describes parameters, or that does not say which descriptor it declares. -/
def DeclaresNothing (s : ShapeInfo) : Prop :=
  s.kind = .parameter ∨ ShapeCatalog.lacksIdentity s.kind s.fields = true

/-- Without a pinned field of a name there is no text under it. -/
theorem value_requiredText?_eq_none {name : String}
    (h : ∀ f ∈ s.fields, f.name = name → f.isPinned = false) : (s.requiredText? name).value = none := by
  unfold requiredText?
  cases hf : s.field? name with
  | none => simp
  | some f =>
    have hname : f.name = name := by simpa using List.find?_some hf
    have hpinned := h f (List.mem_of_find?_eq_some hf) hname
    have htext : f.type?.bind TypeExpr.string? = none := by
      simpa [MergedField.isPinned] using hpinned
    simp [textOf, htext]

theorem DeclaresNothing.value_requiredText? (h : s.DeclaresNothing) (name : String)
    (hkind : s.kind.identifyingField? = some name) : (s.requiredText? name).value = none := by
  rcases h with h | h
  · simp [h, ShapeKind.identifyingField?] at hkind
  · simp only [ShapeCatalog.lacksIdentity, hkind, Bool.not_eq_true', List.any_eq_false,
      Bool.and_eq_true, beq_iff_eq, not_and, Bool.not_eq_true] at h
    exact value_requiredText?_eq_none h

end ShapeInfo

namespace LocatedGraph

open ShapeInfo

variable {s : ShapeInfo} (h : s.DeclaresNothing) (ctx : TypeContext)

include h

theorem serviceOf?_of_declaresNothing : serviceOf? ctx s = none := by
  unfold serviceOf?
  split
  · rename_i hk
    cases hauth : s.field? "auth" <;>
      simp [Service.ofShape, h.value_requiredText? "name" (by rw [hk]; rfl), hauth]
  · rfl

theorem operationOf?_of_declaresNothing : operationOf? ctx s = none := by
  unfold operationOf?
  split
  · rename_i hk
    simp [Operation.value_ofShape, h.value_requiredText? "name" (by rw [hk]; rfl)]
  · rfl

theorem promptOf?_of_declaresNothing : promptOf? ctx s = none := by
  unfold promptOf?
  split
  · rename_i hk
    simp [Prompt.value_ofShape, h.value_requiredText? "name" (by rw [hk]; rfl)]
  · rfl

theorem resourceOf?_of_declaresNothing : resourceOf? ctx s = none := by
  unfold resourceOf?
  split
  · rename_i hk
    simp [Resource.value_ofShape, h.value_requiredText? "uri" (by rw [hk]; rfl)]
  · rfl

theorem groupOf?_of_declaresNothing : groupOf? ctx s = none := by
  unfold groupOf?
  split
  · rename_i hk
    simp [Group.value_ofShape, h.value_requiredText? "name" (by rw [hk]; rfl)]
  · rfl

end LocatedGraph

/-! ## 2. Graphs without a shape -/

namespace LocatedGraph

/-- A graph without what a shape declares. -/
def without (g : LocatedGraph) (name : String) : LocatedGraph where
  service? := g.service?.filter (·.site.shape != name)
  operations := g.operations.filter (·.site.shape != name)
  prompts := g.prompts.filter (·.site.shape != name)
  resources := g.resources.filter (·.site.shape != name)
  groups := g.groups.filter (·.site.shape != name)

/-- Binding a graph without a shape leaves the shape out of the bound graph. -/
theorem bind_without (scope : Scope) (g : LocatedGraph) (name : String) :
    (scope.bind (g.without name)).1 = (scope.bind g).1.without name := by
  unfold Scope.bind without
  simp only [List.filter_map, Function.comp_def, Scope.site_bindPrompt, Scope.site_bindResource]
  rfl

variable {s : ShapeInfo}

/-- A descriptor has the site of its shape. -/
theorem shape_of_mem_declared {α β : Type} {kind : ShapeKind} {found : Option β}
    {locate : β → Located α} (hsite : ∀ b, (locate b).site.shape = s.name) :
    ∀ l ∈ (if s.kind = kind then found.map locate else none), l.site.shape = s.name := by
  intro l hl
  split at hl
  · obtain ⟨b, -, rfl⟩ := Option.map_eq_some_iff.mp hl
    exact hsite b
  · cases hl

section

variable (ctx : TypeContext) (s : ShapeInfo)

theorem shape_of_mem_serviceOf? : ∀ l ∈ serviceOf? ctx s, l.site.shape = s.name :=
  shape_of_mem_declared fun _ => rfl

theorem shape_of_mem_operationOf? : ∀ l ∈ operationOf? ctx s, l.site.shape = s.name :=
  shape_of_mem_declared fun _ => rfl

theorem shape_of_mem_promptOf? : ∀ l ∈ promptOf? ctx s, l.site.shape = s.name :=
  shape_of_mem_declared fun _ => rfl

theorem shape_of_mem_resourceOf? : ∀ l ∈ resourceOf? ctx s, l.site.shape = s.name :=
  shape_of_mem_declared fun _ => rfl

theorem shape_of_mem_groupOf? : ∀ l ∈ groupOf? ctx s, l.site.shape = s.name :=
  shape_of_mem_declared fun _ => rfl

end

/-- What the other shapes declare is what is left without one of them. -/
theorem filter_filterMap_declared {α : Type} {name : String} {shapes : List ShapeInfo}
    {declared declared' : ShapeInfo → Option (Located α)}
    (hsite : ∀ s, ∀ l ∈ declared s, l.site.shape = s.name)
    (hsame : ∀ s ∈ shapes, s.name ≠ name → declared' s = declared s) :
    (shapes.filter (·.name != name)).filterMap declared' =
      (shapes.filterMap declared).filter (·.site.shape != name) := by
  rw [List.filterMap_filter, List.filter_filterMap]
  refine List.filterMap_congr fun s hs => ?_
  by_cases hname : s.name = name
  · cases hd : declared s with
    | none => simp [hname]
    | some l => simp [hname, Option.filter, hsite s l hd]
  · cases hd : declared s with
    | none => simp [hname, hsame s hs hname, hd]
    | some l => simp [hname, hsame s hs hname, hd, Option.filter, hsite s l hd]

end LocatedGraph

/-! ## 3. Drafts -/

namespace Draft

open LocatedGraph

variable {f : SourceFile} {name : String}

/-- The declarations of a file declare what all of its shapes do. -/
theorem filterMap_declaring {α : Type} (hn : (f.shapes.map (·.name)).Nodup)
    (hacyclic : Heritage.Acyclic f.structures) {declared : ShapeInfo → Option α}
    (hnothing : ∀ s : ShapeInfo, s.DeclaresNothing → declared s = none) :
    (declaring (ShapeCatalog.ofFile f).1).filterMap declared =
      (ShapeCatalog.ofFile f).1.shapes.filterMap declared := by
  rw [declaring, ShapeCatalog.declarations_ofFile hn, List.filterMap_filterMap,
    List.filterMap_filterMap]
  refine List.filterMap_congr fun s hs => ?_
  have hget : (ShapeCatalog.ofFile f).1.get? s.decl.name = some s :=
    (Keyed.find?_eq_some_iff (ShapeCatalog.nodup_names_ofFile hn hacyclic)).mpr ⟨hs, rfl⟩
  unfold ShapeCatalog.declarationOf?
  dsimp only
  split
  · simp [hget]
  · rename_i hsilent
    refine (hnothing s ?_).symm
    simp only [bne_iff_ne, ne_eq, Bool.and_eq_true, Bool.not_eq_true', Bool.and_eq_false_iff,
      not_and, not_or, Bool.not_eq_false] at hsilent
    by_cases hk : s.kind = .parameter
    · exact .inl hk
    · exact .inr (hsilent hk).2

/-- The draft of a file in terms of its entries. -/
theorem value_contentsOf_context (hn : (f.shapes.map (·.name)).Nodup)
    (hacyclic : Heritage.Acyclic f.structures) :
    (contentsOf (Analysis.context f)).value = ofEntries (Analysis.context f) := by
  generalize hctx : Analysis.context f = ctx
  have hall : ∀ {α : Type} {declared : ShapeInfo → Option α},
      (∀ s : ShapeInfo, s.DeclaresNothing → declared s = none) →
      (declaring ctx.catalog).filterMap declared = ctx.catalog.shapes.filterMap declared :=
    fun h => hctx ▸ filterMap_declaring hn hacyclic h
  rw [ofEntries, value_contentsOf, ← List.head?_filterMap,
    hall fun s hs => serviceOf?_of_declaresNothing hs ctx,
    hall fun s hs => operationOf?_of_declaresNothing hs ctx,
    hall fun s hs => promptOf?_of_declaresNothing hs ctx,
    hall fun s hs => resourceOf?_of_declaresNothing hs ctx,
    hall fun s hs => groupOf?_of_declaresNothing hs ctx]

end Draft

/-! ## 4. Analyses -/

namespace Analysis

open LocatedGraph

variable {f g : SourceFile} {name : String}

/-- With and without the shape the same is found under all other names. -/
theorem context_agreesOn (h : f.Isolates name) :
    (context f).AgreesOn (· != name) (context (f.without name)) where
  shape other hother := ShapeCatalog.get?_without h (by simpa using hother)
  annotation owner path howner := by
    have hn := ShapeCatalog.nodup_names_ofFile h.shapes h.heritage
    have hn' := ShapeCatalog.nodup_names_ofFile (SourceFile.nodup_shapes_without h)
      (Heritage.acyclic_without h)
    have hget := ShapeCatalog.get?_without h (by simpa using howner)
    simp only [ShapeCatalog.get?] at hget
    unfold context
    rw [ Annotation.get?_ofShapes (by rw [List.map_map]; exact hn'),
      Annotation.get?_ofShapes (by rw [List.map_map]; exact hn), List.find?_map, List.find?_map]
    exact congrArg (fun s : Option ShapeInfo => (s.map (·.decl)).bind _) hget
  names := by
    change ((ShapeCatalog.ofFile f).1.shapes.map (·.name)).filter _ |>.Perm
      (((ShapeCatalog.ofFile (f.without name)).1.shapes.map (·.name)).filter _)
    rw [ShapeCatalog.shapes_without h, List.filter_map, List.filter_map, List.filter_filter]
    simp only [Function.comp_def, Bool.and_self]
    exact .refl _
  closed other s hother hs := by
    have hname : s.name = other := by simpa using List.find?_some hs
    exact ShapeCatalog.namesIn_of_mem_shapes h (List.mem_of_find?_eq_some hs) (hname ▸ hother)

/-- The shape that is taken out declares no service. -/
theorem shape_of_mem_services (h : f.Isolates name) :
    ∀ l ∈ (context f).catalog.shapes.filterMap (serviceOf? (context f)), l.site.shape ≠ name := by
  intro l hl
  obtain ⟨s, hs, hdeclared⟩ := List.mem_filterMap.mp hl
  rw [shape_of_mem_serviceOf? (context f) s l hdeclared]
  intro hname
  have hkind := h.service s hs hname
  simp [serviceOf?, hkind] at hdeclared

/-- The draft of the file without the shape. -/
theorem draft_without (h : f.Isolates name) : (Draft.contentsOf (context (f.without name))).value =
    (Draft.contentsOf (context f)).value.without name := by
  have hagrees := context_agreesOn h
  have hnames : ∀ s ∈ (context f).catalog.shapes, s.name ≠ name → s.NamesIn (· != name) :=
    fun s hs hname => ShapeCatalog.namesIn_of_mem_shapes h hs (by simpa using hname)
  have hshapes : (context (f.without name)).catalog.shapes =
      (context f).catalog.shapes.filter (·.name != name) := ShapeCatalog.shapes_without h
  have hservices := shape_of_mem_services h
  rw [Draft.value_contentsOf_context h.shapes h.heritage,
    Draft.value_contentsOf_context (SourceFile.nodup_shapes_without h) (Heritage.acyclic_without h)]
  simp only [LocatedGraph.without, ofEntries]
  rw [hshapes,
    filter_filterMap_declared (shape_of_mem_serviceOf? (context f)) fun s hs hname =>
      serviceOf?_eq ((hnames s hs hname).readsAlike hagrees),
    filter_filterMap_declared (shape_of_mem_operationOf? (context f)) fun s hs hname =>
      operationOf?_eq ((hnames s hs hname).readsAlike hagrees),
    filter_filterMap_declared (shape_of_mem_promptOf? (context f)) fun s hs hname =>
      promptOf?_eq ((hnames s hs hname).readsAlike hagrees),
    filter_filterMap_declared (shape_of_mem_resourceOf? (context f)) fun s hs hname =>
      resourceOf?_eq ((hnames s hs hname).readsAlike hagrees),
    filter_filterMap_declared (shape_of_mem_groupOf? (context f)) fun s hs hname =>
      groupOf?_eq ((hnames s hs hname).readsAlike hagrees)]
  -- the first service stays the first, since no service is taken out
  congr 1
  cases hall : (context f).catalog.shapes.filterMap (serviceOf? (context f)) with
  | nil => rfl
  | cons first rest =>
    have hfirst := hservices first (by simp [hall])
    simp [hfirst, Option.filter]

/-- **Without a shape that no other one names, a graph is without what the shape declares.** -/
theorem contents_without (h : f.Isolates name) :
    (ofFile (f.without name)).contents = (ofFile f).contents.without name := by
  have hscope : Scope.ofFile (f.without name) = Scope.ofFile f := by
    simp only [Scope.ofFile, Scope.defaultMembers, SourceFile.bindings_without,
      SourceFile.defaultExport?_without]
  rw [contents_ofFile, contents_ofFile, draft_without h, hscope, bind_without]

/-- The graph of a file is that of its items. -/
theorem contents_congr (h : f.items = g.items) : (ofFile f).contents = (ofFile g).contents := by
  obtain ⟨items, errors⟩ := f
  obtain ⟨items', errors'⟩ := g
  cases h
  rw [contents_ofFile, contents_ofFile]
  rfl

/-- **Files that differ in one shape only have the same graph but for what the shape declares.** The
shape may be written in any way in either file, or be missing. -/
theorem contents_eq_of_without (hf : f.Isolates name) (hg : g.Isolates name)
    (hrest : (f.without name).items = (g.without name).items) :
    (ofFile f).contents.without name = (ofFile g).contents.without name := by
  rw [← contents_without hf, ← contents_without hg]
  exact contents_congr hrest

end Analysis

/-! ## A file with and without a shape -/

namespace Sample

/-- An operation whose parameters refer to another shape. -/
def asking : SourceFile where
  items := [
    interface "Ask" "Operation" [field "name" (text "ask"),
      field "params" (.reference .origin "Question" [])],
    .shape ⟨"Question", .interface, [], .object .origin [whom] [], none, true, .origin, .origin⟩]
  errors := []

/-- The same file with a shape in front that inherits the operation and declares it badly once more. -/
def askingTwice : SourceFile where
  items :=
    .shape ⟨"Again", .interface, [.reference .origin "Ask" [], .reference .origin "Nothing" []],
      .object .origin [field "params" (text "none")] [], none, true, .origin, .origin⟩ :: asking.items
  errors := []

/-- No shape of the file has a declared base, but for the one in front. -/
theorem extends_askingTwice {a b : String} (h : Heritage.Extends askingTwice.structures a b) :
    a = "Again" ∧ b = "Ask" := by
  obtain ⟨s, hs, base, hbase, hname, hdeclared⟩ := h
  obtain ⟨hmem, hkey⟩ := Heritage.structureOf?_eq_some hs
  simp only [askingTwice, asking, interface, SourceFile.structures, SourceFile.shapes,
    List.filterMap_cons, List.filterMap_nil, List.map_cons, List.map_nil, List.mem_cons,
    List.not_mem_nil, or_false] at hmem
  rcases hmem with rfl | rfl | rfl
  · simp only [ShapeStructure.ofDecl, List.mem_cons, List.not_mem_nil, or_false] at hbase
    rcases hbase with rfl | rfl
    · exact ⟨hkey.symm, (Option.some.inj hname).symm⟩
    · cases hname
      exact absurd hdeclared (by decide)
  · simp only [ShapeStructure.ofDecl, List.mem_cons, List.not_mem_nil, or_false] at hbase
    subst hbase
    cases hname
    exact absurd hdeclared (by decide)
  · simp [ShapeStructure.ofDecl] at hbase

set_option maxRecDepth 10000 in
theorem askingTwice_isolates : askingTwice.Isolates "Again" where
  shapes := by decide
  heritage := by
    intro name hcycle
    obtain ⟨next, hfirst, -⟩ := Relation.TransGen.head'_iff.mp hcycle
    obtain ⟨previous, -, hlast⟩ := Relation.TransGen.tail'_iff.mp hcycle
    have hhead := (extends_askingTwice hfirst).1
    have htail := (extends_askingTwice hlast).2
    rw [hhead] at htail
    exact absurd htail (by decide)
  unused := by
    simp [askingTwice, asking, interface, field, whom, text, SourceFile.shapes, TypeExpr.Everywhere,
      TypeExpr.parts, TypeExpr.partsOfFields, TypeExpr.partsOfField, TypeExpr.partsOfDeclared,
      TypeExpr.partsOfTypes, TypeExpr.referenceName?]
    exact ⟨by decide, by decide⟩
  service := by
    have hkinds : (ShapeCatalog.ofFile askingTwice).1.shapes.map (·.kind) =
        [.operation, .operation, .parameter] := by cbv
    intro s hs _ hk
    have hmem := List.mem_map_of_mem (f := (·.kind)) hs
    simp [hkinds, hk] at hmem

theorem without_askingTwice : askingTwice.without "Again" = asking := by
  simp [SourceFile.without, askingTwice, asking, interface, SourceFile.isShapeNamed]

theorem asking_isolates : asking.Isolates "Again" :=
  without_askingTwice ▸ askingTwice_isolates.without

theorem askingTwice_eq_asking :
    askingTwice.Isolates "Again" ∧ asking.Isolates "Again" ∧
      (askingTwice.without "Again").items = (asking.without "Again").items ∧
      (Analysis.ofFile askingTwice).contents.without "Again" =
        (Analysis.ofFile asking).contents.without "Again" :=
  have hrest : (askingTwice.without "Again").items = (asking.without "Again").items := by
    rw [without_askingTwice]
    simp [SourceFile.without, asking, interface, SourceFile.isShapeNamed]
  ⟨askingTwice_isolates, asking_isolates, hrest,
    Analysis.contents_eq_of_without askingTwice_isolates asking_isolates hrest⟩

end Sample

end ServiceGraph
