import ServiceGraph.Proofs.Graph.Consistent
import ServiceGraph.Proofs.Graph.Order
import ServiceGraph.Proofs.Schema.Comments

/-!
Comments and the fields they are written at.

Comments are entered by one walk over the types of a file and looked up by another one. The two agree on
where a field stands: unless an ignored member of an intersection is documented under the same path, what is
looked up for a field is what the field's own comment says
(`Analysis.annotation_of_looksUp`). So the draft of a file is the one that each field's own comment makes
(`Analysis.draft_eq_of_ownComments`).

An ignored member may hold a field with the name of a merged one. Its comment is entered under the same
path, and then it counts for the merged field (`Sample.straying_disturbed`).
-/

namespace ServiceGraph

open Syntax

namespace Analysis

variable {f : SourceFile}

/-- What is found at a place is what the comments of the declaration say that counts. -/
theorem get?_context (f : SourceFile) (owner path : String) :
    (context f).annotations.get? owner path =
      ((firstDeclarations f.shapes).1.find? (·.name == owner)).bind ( Annotation.ofPlace? · path) := by
  have hannotations : (context f).annotations =
      ( Annotation.ofShapes (firstDeclarations f.shapes).1).1 := by
    rw [← ShapeCatalog.decls_ofFile]
    rfl
  rw [hannotations, Annotation.get?_ofShapes (nodup_names_firstDeclarations f.shapes)]

/-- Unless an ignored member is documented in its place, a field's own comment is found. -/
theorem get?_context_of_looksUp (hplain : ∀ d ∈ f.shapes, d.HasPlainFields) {g : Field}
    {owner path : String} (h : (ShapeCatalog.ofFile f).1.LooksUp g owner path)
    (hclear : ∀ d ∈ f.shapes, d.name = owner → ∀ e ∈ Annotation.strayDocs d, e.1 ≠ path) :
    (context f).annotations.get? owner path = g.doc?.map fun doc => ( Annotation.ofDoc doc).1 := by
  obtain ⟨d, hd, rfl, parent, rfl, hat⟩ := h.fieldAt hplain
  have hfind : (firstDeclarations f.shapes).1.find? (·.name == d.name) = some d :=
    (Keyed.find?_eq_some_iff (nodup_names_firstDeclarations f.shapes)).mpr ⟨hd, rfl⟩
  rw [get?_context, hfind]
  exact hat.ofPlace?_eq (hclear d (firstDeclarations_subset f.shapes hd) rfl)

/-- **A field is read with its own comment, unless an ignored member is documented in its place.** -/
theorem annotation_of_looksUp (hplain : ∀ d ∈ f.shapes, d.HasPlainFields) {g : Field}
    {owner path : String} (h : (ofFile f).catalog.LooksUp g owner path)
    (hclear : ∀ d ∈ f.shapes, d.name = owner → ∀ e ∈ Annotation.strayDocs d, e.1 ≠ path) :
    (ofFile f).annotations.get? owner path = g.doc?.map fun doc => ( Annotation.ofDoc doc).1 := by
  rw [catalog_ofFile] at h
  rw [annotations_ofFile]
  exact get?_context_of_looksUp hplain h hclear

/-- **The draft of a file is the one that each field's own comment makes.** -/
theorem draft_eq_of_ownComments (hplain : ∀ d ∈ f.shapes, d.HasPlainFields)
    (hclear : ∀ g owner path, (ofFile f).catalog.LooksUp g owner path →
      ∀ d ∈ f.shapes, d.name = owner → ∀ e ∈ Annotation.strayDocs d, e.1 ≠ path)
    {table : AnnotationTable}
    (hshapes : ∀ s ∈ (ofFile f).catalog.shapes,
      table.declaration? s.name = (ofFile f).annotations.declaration? s.name)
    (hfields : ∀ g owner path, (ofFile f).catalog.LooksUp g owner path →
      table.get? owner path = g.doc?.map fun doc => ( Annotation.ofDoc doc).1) :
    Draft.ofCatalog (ofFile f).catalog table =
      Draft.ofCatalog (ofFile f).catalog (ofFile f).annotations :=
  Draft.ofCatalog_eq_of_sameComments
    ⟨fun g owner path h => (hfields g owner path h).trans
      (annotation_of_looksUp hplain h (hclear g owner path h)).symm, hshapes⟩

end Analysis

/-! ## Ignored members with comments -/

namespace Sample

/-- A field of texts with a comment that bounds their length. -/
def bounded (name : String) : Field :=
  { field name (.keyword .origin "string") with doc? := some ⟨"/** @minLength 5 */", .origin⟩ }

/-- An alias of an object with one field, merged with a union that is ignored. -/
def letter (own ignored : Field) : ShapeDecl :=
  ⟨"Letter", .alias, [],
    .intersection .origin [.object .origin [own] [],
      .union .origin [.object .origin [ignored] [], .literal .origin .null]],
    none, true, .origin, .origin⟩

def merging (own ignored : Field) : SourceFile := ⟨[.shape (letter own ignored)], []⟩

theorem looksUp_merging (own ignored : Field) :
    (Analysis.ofFile (merging own ignored)).catalog.LooksUp own "Letter" own.name := by
  have hfields : (Analysis.ofFile (merging own ignored)).catalog.shapes.map (·.fields) =
      [[⟨own, "Letter"⟩]] := by cbv
  obtain ⟨s, hs, heq⟩ := List.mem_map.mp (hfields ▸ List.mem_singleton_self _)
  exact .merged hs (heq ▸ List.mem_singleton_self _)

/-- Fields inside of a list, one of which has a name that is also in the ignored member. -/
def tags : Field :=
  field "tags" (.array .origin
    (.union .origin [.object .origin [bounded "word"] [], .literal .origin .null]))

/-- The merged field goes down to a field whose comment is looked up under its own path. -/
theorem looksUp_word : (Analysis.ofFile (merging tags (bounded "word"))).catalog.LooksUp
    (bounded "word") "Letter" "tags[].word" :=
  have hpath : TypePath.field (TypePath.item "tags") "word" = "tags[].word" := rfl
  hpath ▸ .nested (.kept rfl (.item (.declared (looksUp_merging tags _) rfl)))
    (List.mem_singleton_self _)

theorem word_bounded :
    (∀ d ∈ (merging tags (bounded "word")).shapes, d.HasPlainFields) ∧
    (Analysis.ofFile (merging tags (bounded "word"))).catalog.LooksUp
      (bounded "word") "Letter" "tags[].word" ∧
    (∀ d ∈ (merging tags (bounded "word")).shapes, d.name = "Letter" →
      ∀ e ∈ Annotation.strayDocs d, e.1 ≠ "tags[].word") ∧
    (Analysis.ofFile (merging tags (bounded "word"))).annotations.get? "Letter" "tags[].word" =
      (bounded "word").doc?.map fun doc => ( Annotation.ofDoc doc).1 :=
  have hplain : ∀ d ∈ (merging tags (bounded "word")).shapes, d.HasPlainFields := by decide
  have hclear : ∀ d ∈ (merging tags (bounded "word")).shapes, d.name = "Letter" →
      ∀ e ∈ Annotation.strayDocs d, e.1 ≠ "tags[].word" := by decide
  ⟨hplain, looksUp_word, hclear, Analysis.annotation_of_looksUp hplain looksUp_word hclear⟩

def name : Field := field "name" (.keyword .origin "string")

/-- A field without a comment is bounded by the comment of an ignored one. -/
theorem straying_disturbed :
    ((merging name (bounded "name")).shapes.map (·.name)).Nodup ∧
    (∀ d ∈ (merging name (bounded "name")).shapes, d.HasPlainFields) ∧
    (Analysis.ofFile (merging name (bounded "name"))).catalog.LooksUp name "Letter" "name" ∧
    (Analysis.ofFile (merging name (bounded "name"))).annotations.get? "Letter" "name" ≠
      name.doc?.map fun doc => ( Annotation.ofDoc doc).1 := by
  refine ⟨by decide, by decide, looksUp_merging _ _, ?_⟩
  have hsome : ((Analysis.ofFile (merging name (bounded "name"))).annotations.get?
      "Letter" "name").isSome = true := by cbv
  intro hnone
  rw [hnone] at hsome
  exact absurd hsome (by decide)

end Sample

end ServiceGraph
