import ServiceGraph.Proofs.Annotation.Lookup
import ServiceGraph.Proofs.Binding.Lookup
import ServiceGraph.Proofs.Descriptor.Order
import ServiceGraph.Proofs.Graph.Consistent
import ServiceGraph.Proofs.Shape.Catalog

/-!
The order of the items in a file does not matter (`Analysis.ofFile_of_perm`).

A file is unambiguous if nothing in it is declared twice and no shape extends itself in the end. Of two
orders of such a file, each step makes the same up to the order of its results: the catalog has the
same entries, the same comments are found for each of them, each field has the same schema, and each
descriptor is bound to the same implementation.
-/

namespace ServiceGraph

open Syntax

/-- A file in which every name stands for one thing. -/
structure Syntax.SourceFile.Unambiguous (f : SourceFile) : Prop where
  shapes : (f.shapes.map (·.name)).Nodup
  bindings : (f.bindings.map (·.name)).Nodup
  defaultExport : f.defaultExports.length ≤ 1
  service : ((ShapeCatalog.ofFile f).1.shapes.filter (·.kind == .service)).length ≤ 1
  heritage : Heritage.Acyclic f.structures

namespace Analysis

/-- The same analysis up to the order of its results. -/
structure Reordered (a b : Analysis) : Prop where
  service : b.graph.service? = a.graph.service?
  operations : a.graph.operations.Perm b.graph.operations
  prompts : a.graph.prompts.Perm b.graph.prompts
  resources : a.graph.resources.Perm b.graph.resources
  groups : a.graph.groups.Perm b.graph.groups
  /-- Every shape keeps its kind and its fields. -/
  shapes : a.catalog.shapes.Perm b.catalog.shapes
  /-- Every field of a shape keeps its schema. -/
  schemas : ∀ (s : ShapeInfo) (f : MergedField),
    (s.schemaOf ⟨b.catalog, b.annotations⟩ f).value = (s.schemaOf ⟨a.catalog, a.annotations⟩ f).value
  /-- The name of a shape keeps its schema. -/
  names : ∀ (span : Span) (name : String),
    (TypeSchema.ofName ⟨b.catalog, b.annotations⟩ (b.catalog.shapes.map (·.name)) span name).value =
      (TypeSchema.ofName ⟨a.catalog, a.annotations⟩ (a.catalog.shapes.map (·.name)) span name).value

variable {f g : SourceFile}

theorem annotations_ofFile (f : SourceFile) :
    (ofFile f).annotations = (context f).annotations := by
  rw [ofFile_eq]

section

variable (hf : f.Unambiguous) (hp : f.items.Perm g.items)

include hf hp

/-- In both orders the same is found. -/
theorem context_agrees : (context f).Agrees (context g) where
  shape := ShapeCatalog.get?_of_perm hp hf.shapes hf.heritage
  annotation owner path := by
    have hshapes := ShapeCatalog.shapes_of_perm hp hf.shapes hf.heritage
    refine Annotation.get?_ofShapes_of_perm (hshapes.map _) ?_ owner path
    rw [List.map_map]
    exact ShapeCatalog.nodup_names_ofFile hf.shapes hf.heritage
  names := (ShapeCatalog.shapes_of_perm hp hf.shapes hf.heritage).map _

/-- The drafts declare the same. -/
theorem draft_reordered : (Draft.contentsOf (context f)).value.Reordered
    (Draft.contentsOf (context g)).value := by
  refine Draft.contentsOf_of_perm (context_agrees hf hp)
    (ShapeCatalog.declarations_of_perm hp hf.shapes hf.heritage) fun s hs t ht hks hkt => ?_
  have hmem : ∀ u ∈ (context f).catalog.shapes, u.kind = .service →
      u ∈ (ShapeCatalog.ofFile f).1.shapes.filter (·.kind == .service) :=
    fun u hu hk => List.mem_filter.mpr ⟨hu, by simp [hk]⟩
  have hs' := hmem s hs hks
  have ht' := hmem t ht hkt
  match hall : (ShapeCatalog.ofFile f).1.shapes.filter (·.kind == .service) with
  | [] => simp [hall] at hs'
  | [only] =>
    rw [hall, List.mem_singleton] at hs' ht'
    rw [hs', ht']
  | first :: second :: rest =>
    have hone := hf.service
    simp [hall] at hone

/-- Binding does the same in both orders. -/
theorem contents_reordered : (ofFile f).contents.Reordered (ofFile g).contents := by
  have hdraft := draft_reordered hf hp
  have hlookup := Scope.lookup_of_perm hp hf.bindings hf.defaultExport
  rw [contents_ofFile, contents_ofFile]
  unfold Scope.bind
  rw [Scope.bindOperation_congr hlookup, Scope.bindPrompt_congr hlookup,
    Scope.bindResource_congr hlookup]
  exact ⟨hdraft.service, (hdraft.operations.map _).map _, (hdraft.prompts.map _).map _,
    (hdraft.resources.map _).map _, hdraft.groups⟩

end

/-- **The order of the items of a file does not matter.** -/
theorem ofFile_of_perm (hf : f.Unambiguous) (hp : f.items.Perm g.items) :
    (ofFile f).Reordered (ofFile g) := by
  have hcontents := contents_reordered hf hp
  have hagrees := context_agrees hf hp
  refine ⟨?_, ?_, ?_, ?_, ?_, ?_, fun s field => ?_, fun span name => ?_⟩
  · exact congrArg (Option.map (·.value)) hcontents.service
  · rw [operations_graph, operations_graph]
    exact hcontents.operations.map _
  · rw [prompts_graph, prompts_graph]
    exact hcontents.prompts.map _
  · rw [resources_graph, resources_graph]
    exact hcontents.resources.map _
  · rw [groups_graph, groups_graph]
    exact hcontents.groups.map _
  · rw [catalog_ofFile, catalog_ofFile]
    exact ShapeCatalog.shapes_of_perm hp hf.shapes hf.heritage
  · rw [catalog_ofFile, catalog_ofFile, annotations_ofFile, annotations_ofFile]
    exact congrArg Noted.value (ShapeInfo.schemaOf_eq hagrees s field)
  · rw [catalog_ofFile, catalog_ofFile, annotations_ofFile, annotations_ofFile]
    exact congrArg Noted.value (TypeSchema.ofName_eq hagrees hagrees.names span name)

end Analysis

/-! ## A file in two orders -/

namespace Sample

/-- An operation that inherits its name from a shape declared behind it. -/
def inheriting : SourceFile where
  items := [
    .binding ⟨"hello", .function ⟨1, 0, false⟩, true, .origin⟩,
    .shape ⟨"Hello", .interface, [.reference .origin "Base" [], .reference .origin "Operation" []],
      .object .origin [field "params" (.object .origin [whom] [])] [], none, true, .origin, .origin⟩,
    .shape ⟨"Base", .interface, [], .object .origin [field "name" (text "hello")] [], none, true,
      .origin, .origin⟩]
  errors := []

def inheritingReversed : SourceFile := ⟨inheriting.items.reverse, []⟩

/-- Only one of the two shapes has a base that is declared. -/
theorem extends_inheriting {a b : String} (h : Heritage.Extends inheriting.structures a b) :
    a = "Hello" ∧ b = "Base" := by
  obtain ⟨s, hs, base, hbase, hname, hdeclared⟩ := h
  have hmem := List.mem_of_find?_eq_some hs
  have hkey : s.name = a := by simpa using List.find?_some hs
  simp only [inheriting, SourceFile.structures, SourceFile.shapes, List.filterMap_cons,
    List.filterMap_nil, List.map_cons, List.map_nil, List.mem_cons, List.not_mem_nil,
    or_false] at hmem
  rcases hmem with rfl | rfl
  · refine ⟨hkey.symm, ?_⟩
    simp only [ShapeStructure.ofDecl, List.mem_cons, List.not_mem_nil, or_false] at hbase
    rcases hbase with rfl | rfl
    · exact (Option.some.inj hname).symm
    · cases hname
      exact absurd hdeclared (by decide)
  · simp [ShapeStructure.ofDecl] at hbase

set_option maxRecDepth 10000 in
theorem inheriting_unambiguous : inheriting.Unambiguous where
  shapes := by decide
  bindings := by decide
  defaultExport := by decide
  service := by cbv
  heritage := by
    intro name hcycle
    obtain ⟨next, hfirst, -⟩ := Relation.TransGen.head'_iff.mp hcycle
    obtain ⟨previous, -, hlast⟩ := Relation.TransGen.tail'_iff.mp hcycle
    have hhead := (extends_inheriting hfirst).1
    have htail := (extends_inheriting hlast).2
    rw [hhead] at htail
    exact absurd htail (by decide)

theorem inheriting_reordered : inheriting.Unambiguous ∧
    inheriting.items.Perm inheritingReversed.items ∧
    (Analysis.ofFile inheriting).Reordered (Analysis.ofFile inheritingReversed) :=
  have hp : inheriting.items.Perm inheritingReversed.items := (List.reverse_perm _).symm
  ⟨inheriting_unambiguous, hp, Analysis.ofFile_of_perm inheriting_unambiguous hp⟩

end Sample

end ServiceGraph
