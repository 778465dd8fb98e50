import ServiceGraph.Proofs.Descriptor.Inlining
import ServiceGraph.Proofs.Graph.Comments
import ServiceGraph.Proofs.Graph.Confined
import ServiceGraph.Proofs.Schema.Entries
import ServiceGraph.Proofs.Shape.Aliases

/-!
Extending an alias, or extending what it stands for.

If the aliased shape has the name of a marker, it makes no difference which of the two is written: every shape
keeps its markers, its fields and its kind, and the file keeps its descriptors. If it has any other name, the
alias has neither markers nor fields, and what extends it inherits nothing (`Analysis.contents_of_rebased`). So
there a descriptor can be lost (`Sample.heritage_lost`).
-/

namespace ServiceGraph

open Syntax

/-! ## 1. The first declarations of a file -/

/-- A file with those declarations of another one that count. -/
def Syntax.SourceFile.firsts (f : SourceFile) : SourceFile :=
  ⟨(firstDeclarations f.shapes).1.map .shape, []⟩

namespace Analysis

variable {f f' : SourceFile} {q p : String}

theorem shapes_firsts (f : SourceFile) : f.firsts.shapes = (firstDeclarations f.shapes).1 := by
  simp [SourceFile.firsts, SourceFile.shapes, List.filterMap_map]

theorem context_firsts (f : SourceFile) : context f.firsts = context f := by
  have hcatalog : (ShapeCatalog.ofFile f.firsts).1 = (ShapeCatalog.ofFile f).1 := by
    simp only [ShapeCatalog.ofFile, shapes_firsts,
      firstDeclarations_of_nodup (nodup_names_firstDeclarations f.shapes)]
  unfold context
  rw [hcatalog]

/-- The draft of a file is what its entries declare. -/
theorem value_contentsOf_of_acyclic (hacyclic : Heritage.Acyclic f.firstStructures) :
    (Draft.contentsOf (context f)).value = LocatedGraph.ofEntries (context f) := by
  have hn : (f.firsts.shapes.map (·.name)).Nodup := by
    rw [shapes_firsts]
    exact nodup_names_firstDeclarations f.shapes
  have hstructures : f.firsts.structures = f.firstStructures := by
    rw [SourceFile.structures, shapes_firsts]
    rfl
  rw [← context_firsts f]
  exact Draft.value_contentsOf_context hn (hstructures ▸ hacyclic)

/-! ## 2. Contexts -/

/-- The comments of corresponding declarations are entered alike. -/
theorem ofShapes_of_rebased {decls decls' : List ShapeDecl}
    (h : List.Forall₂ (ShapeDecl.Rebased q p) decls decls') :
    Annotation.ofShapes decls' = Annotation.ofShapes decls := by
  unfold Annotation.ofShapes
  generalize ( AnnotationTable.empty, ([] : List Diagnostic)) = state
  induction h generalizing state with
  | nil => rfl
  | cons hd _ ih => rw [List.foldl_cons, List.foldl_cons, hd.docsOfShape, hd.name, ih]

theorem sameReading_of_rebased {s s' : ShapeInfo} (h : s.Rebased q p s') : s.SameReading s' where
  name := h.decl.name
  fields := h.fields
  skipped := h.skipped
  isObjectLike := h.isObjectLike
  type := h.type

section

variable (hshapes : List.Forall₂ ( ShapeInfo.Rebased q p) (context f).catalog.shapes (context f').catalog.shapes)

include hshapes

/-- **Types are read alike.** -/
theorem sameReading_context : (context f).SameReading (context f') where
  shape name := (rel_find? (fun _ _ h => by rw [h.name]) (hshapes.imp fun _ _ => sameReading_of_rebased))
  annotations := by
    have hdecls : List.Forall₂ (ShapeDecl.Rebased q p) ((context f).catalog.shapes.map (·.decl))
        ((context f').catalog.shapes.map (·.decl)) := by
      rw [List.forall₂_map_left_iff, List.forall₂_map_right_iff]
      exact hshapes.imp fun _ _ h => h.decl
    exact congrArg Prod.fst (ofShapes_of_rebased hdecls)

theorem sameContents_of_rebased {s s' : ShapeInfo} (h : s.Rebased q p s') :
    s.SameContents (context f) (context f') s' := by
  have hreading := sameReading_context hshapes
  have hname : s'.name = s.name := h.decl.name
  have hfield : ∀ name, s'.field? name = s.field? name := fun name => by
    rw [ShapeInfo.field?, ShapeInfo.field?, h.fields]
  have hnames : (context f').catalog.shapes.map (·.name) = (context f).catalog.shapes.map (·.name) :=
    map_eq_of_forall₂ (fun _ _ h => h.decl.name) hshapes
  have hschema : ∀ m, s'.schemaOf (context f') m = s.schemaOf (context f) m := fun m => by
    unfold ShapeInfo.schemaOf ShapeInfo.others
    rw [hname, hnames, TypeSchema.ofDeclared_eq_of_sameReading hreading, hreading.annotations]
  refine ⟨h.kind, ?_, ?_, fun name _ => hfield name, fun name => ?_⟩
  · unfold Site.ofShape
    rw [hname, h.decl.nameSpan, h.fields]
  · rw [hname, hreading.annotations]
  · simp only [hfield, hschema]

end

/-! ## 3. The same descriptors -/

/-- **Extending an alias is extending what it stands for, if that has the name of a marker.** Otherwise the alias
has nothing that it could pass on. -/
theorem contents_of_rebased (hacyclic : Heritage.Acyclic f.firstStructures) (halias : f.Aliases q p) :
    ((ShapeKind.ofMarker? p).isSome = true → f.Rebased q p f' →
      List.Forall₂ (fun e e' => e'.name = e.name ∧ e'.markers = e.markers ∧ e'.fields = e.fields ∧
        e'.kind = e.kind) (ofFile f).catalog.shapes (ofFile f').catalog.shapes ∧
      (ofFile f').contents = (ofFile f).contents) ∧
    (ShapeKind.ofMarker? p = none → ∀ e ∈ (ofFile f).catalog.shapes, e.name = q →
      e.markers = [] ∧ e.fields = []) := by
  rw [catalog_ofFile, catalog_ofFile]
  refine ⟨fun hp h => ?_, fun hp e he hname => ShapeCatalog.nothing_of_plain hacyclic hp halias he hname⟩
  have hshapes : List.Forall₂ ( ShapeInfo.Rebased q p) (context f).catalog.shapes
      (context f').catalog.shapes := ShapeCatalog.rebased_shapes hacyclic hp halias h
  refine ⟨hshapes.imp fun _ _ hs => ⟨hs.decl.name, hs.markers, hs.fields, hs.kind⟩, ?_⟩
  have hacyclic' := Heritage.acyclic_rebased (halias.passes hp) (h.firstStructures hp) hacyclic
  have hscope : Scope.ofFile f' = Scope.ofFile f := by
    unfold Scope.ofFile Scope.defaultMembers
    rw [h.bindings, h.defaultExport?]
  rw [contents_ofFile, contents_ofFile, hscope, value_contentsOf_of_acyclic hacyclic,
    value_contentsOf_of_acyclic hacyclic',
    LocatedGraph.ofEntries_eq_of_sameContents (hshapes.imp fun _ _ => sameContents_of_rebased hshapes)]

end Analysis

/-! ## 4. Samples -/

namespace Sample

/-- A shape with a marker, an alias of it, and a task that extends one of the two. -/
def passing (base marker written : String) : SourceFile where
  items := [
    .shape ⟨base, .interface, [.reference .origin marker []],
      .object .origin [field "result" (.keyword .origin "number")] [], none, true, .origin, .origin⟩,
    .shape ⟨"Alias", .alias, [], .reference .origin base [], none, true, .origin, .origin⟩,
    .shape ⟨"Task", .interface, [.reference .origin written []], .object .origin [field "name" (text "task")] [],
      none, true, .origin, .origin⟩]
  errors := []

/-- The task extends the alias, or what the alias stands for. -/
theorem passing_rebased (base marker : String) (h : TypeExpr.lastSegment base = base) :
    (passing base marker "Alias").Rebased "Alias" base (passing base marker base) where
  shapes :=
    have hsame : ∀ d : ShapeDecl, d.Rebased "Alias" base d :=
      fun d => ⟨rfl, ShapeStructure.rebased_refl _, .same _⟩
    .cons (hsame _) (.cons (hsame _) (.cons
      ⟨rfl, .cons (.inr ⟨by decide, congrArg some h⟩) .nil, .same _⟩ .nil))
  bindings := rfl
  defaultExport? := rfl

theorem passing_aliases {base marker written : String}
    (hn : ((passing base marker written).shapes.map (·.name)).Nodup) (h : TypeExpr.lastSegment base = base) :
    (passing base marker written).Aliases "Alias" base where
  declaration := by
    rw [firstDeclarations_of_nodup hn]
    exact ⟨_, List.mem_cons_of_mem _ List.mem_cons_self, rfl, rfl, rfl, _, _, rfl, h⟩
  declared := List.mem_cons_self

theorem task_passed :
    Heritage.Acyclic (passing "Tool" "Operation" "Alias").firstStructures ∧
    (passing "Tool" "Operation" "Alias").Aliases "Alias" "Tool" ∧
    (Analysis.ofFile (passing "Tool" "Operation" "Tool")).contents =
      (Analysis.ofFile (passing "Tool" "Operation" "Alias")).contents := by
  have hacyclic : Heritage.Acyclic (passing "Tool" "Operation" "Alias").firstStructures :=
    Heritage.acyclic_of_behind ["Task", "Alias", "Tool"] (by decide)
  have halias : (passing "Tool" "Operation" "Alias").Aliases "Alias" "Tool" :=
    passing_aliases (by decide) (by decide)
  exact ⟨hacyclic, halias, ((Analysis.contents_of_rebased hacyclic halias).1 (by decide)
    (passing_rebased "Tool" "Operation" (by decide))).2⟩

/-- What a file's shapes have: their markers and the names of their fields. -/
def endowments (f : SourceFile) : List (String × List ShapeKind × List String) :=
  (Analysis.ofFile f).catalog.shapes.map fun e => (e.name, e.markers, e.fields.map (·.name))

/-- Markers and fields are resolved, whichever kind the shape then is of. -/
theorem endowments_of_acyclic {f : SourceFile} (hacyclic : Heritage.Acyclic f.firstStructures) :
    endowments f = f.firstStructures.map fun s =>
      (s.name, (Heritage.resolvedOf f.firstStructures s).markers,
        (Heritage.resolvedOf f.firstStructures s).fields.map (·.name)) := by
  rw [endowments, Analysis.catalog_ofFile]
  unfold Analysis.context
  rw [ShapeCatalog.shapes_eq_firstStructures hacyclic, List.map_map]
  rfl

/-- An alias of a shape that is no marker has no bases. -/
theorem ofDecl_alias {name base : String} (h : ShapeKind.ofMarker? (TypeExpr.lastSegment base) = none) :
    (ShapeStructure.ofDecl
      ⟨name, .alias, [], .reference .origin base [], none, true, .origin, .origin⟩).1 =
      ⟨⟨name, .alias, [], .reference .origin base [], none, true, .origin, .origin⟩, [], [], [], false⟩ := by
  simp [ShapeStructure.ofDecl, h]

/-- A task that extends an alias of an operation is no operation, and lacks a field. -/
theorem heritage_lost :
    Heritage.Acyclic (passing "Base" "Tool" "Alias").firstStructures ∧
    (passing "Base" "Tool" "Alias").Aliases "Alias" "Base" ∧
    (passing "Base" "Tool" "Alias").Rebased "Alias" "Base" (passing "Base" "Tool" "Base") ∧
    endowments (passing "Base" "Tool" "Alias") =
      [("Base", [.operation], ["result"]), ("Alias", [], []), ("Task", [], ["name"])] ∧
    endowments (passing "Base" "Tool" "Base") =
      [("Base", [.operation], ["result"]), ("Alias", [], []), ("Task", [.operation], ["result", "name"])] := by
  have hthrough : Heritage.Acyclic (passing "Base" "Tool" "Alias").firstStructures :=
    Heritage.acyclic_of_behind ["Task", "Alias", "Base"] (by decide)
  have hdirectly : Heritage.Acyclic (passing "Base" "Tool" "Base").firstStructures :=
    Heritage.acyclic_of_behind ["Task", "Alias", "Base"] (by decide)
  have hplain : ShapeKind.ofMarker? (TypeExpr.lastSegment "Base") = none := by decide
  refine ⟨hthrough, passing_aliases (by decide) (by decide), passing_rebased "Base" "Tool" (by decide), ?_, ?_⟩
  · rw [endowments_of_acyclic hthrough, SourceFile.firstStructures, firstDeclarations_of_nodup (by decide)]
    simp only [passing, SourceFile.shapes, List.filterMap, List.map, ofDecl_alias hplain]
    cbv
  · rw [endowments_of_acyclic hdirectly, SourceFile.firstStructures, firstDeclarations_of_nodup (by decide)]
    simp only [passing, SourceFile.shapes, List.filterMap, List.map, ofDecl_alias hplain]
    cbv

end Sample

end ServiceGraph
