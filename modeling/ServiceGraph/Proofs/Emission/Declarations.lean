import ServiceGraph.Proofs.Emission.Fields
import ServiceGraph.Proofs.Emission.Schemas
import ServiceGraph.Proofs.Graph.Comments

/-!
What a written interface says beyond its fields' values: the description of its descriptor
(`Syntax.WrittenInterface.Declares.value_description?`) and the schemas of its fields
(`Syntax.WrittenInterface.Declares.value_schemaOf`).

A description that a comment would change is a field, and is read back as it is; any other one stands in the
comment in front of the interface.
-/

namespace ServiceGraph

open Syntax Written Emission Annotation

/-! ## 1. The comments of a written file -/

namespace Syntax.WrittenInterface

variable {f : SourceFile} {ws : List WrittenInterface} {w : WrittenInterface} {s : ShapeInfo}

theorem Declares.name (h : w.Declares s) : s.name = w.name := h.decl.name

theorem Declares.type (h : w.Declares s) : ∃ span fs, s.decl.type = .object span fs [] ∧ ReadsFields w.fields fs :=
  h.decl.type

/-- Comments inside of an interface are looked up in it. -/
theorem readsOwn_of_declares (h : List.Forall₂ WrittenInterface.Reads ws f.shapes) (hws : Distinct ws)
    (hinteger : ∀ v ∈ ws, v.name ≠ "Integer") (hs : s ∈ (ShapeCatalog.ofFile f).1.shapes) (hw : w.Declares s) :
    (Analysis.context f).ReadsOwn s.decl where
  annotations path := by
    have hn := SourceFile.nodup_of_written h hws
    have hfind : f.shapes.find? (·.name == s.decl.name) = some s.decl :=
      (Keyed.find?_eq_some_iff hn).mpr ⟨ShapeCatalog.decl_mem_shapes hs, rfl⟩
    rw [Analysis.get?_context, firstDeclarations_of_nodup hn, hfind]
    rfl
  stray := by
    obtain ⟨span, fs, htype, -⟩ := hw.type
    rw [strayDocs, htype]
  integer := SourceFile.get?_of_written h hws hinteger

variable {ctx : TypeContext}

/-! ## 2. Descriptions -/

/-- The comment of a declaration is found, whatever its fields are. -/
theorem Declares.declaration?_eq (h : w.Declares s) (hctx : ctx.ReadsOwn s.decl)
    (hnames : ∀ v ∈ w.fields, v.name ≠ "") :
    ctx.annotations.declaration? s.name = s.decl.doc?.map fun doc => (ofDoc doc).1 := by
  refine (hctx.annotations "").trans (ofPlace?_root ?_)
  obtain ⟨span, fs, htype, hfields⟩ := h.type
  rw [htype, docsOfType]
  refine ne_empty_of_mem_docsOfFields fs fun g hg => ?_
  obtain ⟨v, hv, hreads⟩ := exists_of_forall₂_right hfields.forall₂ hg
  rw [TypePath.field_root, hreads.name]
  exact hnames v hv

end Syntax.WrittenInterface

/-- A description that stands in the comment of an interface is read back, with its lines trimmed. -/
theorem Emission.description_of_comment {description? : Option String} {doc? : Option Doc}
    (hdoc : doc?.map (·.text) = descriptionComment? description?) :
    (doc?.map fun doc => (ofDoc doc).1).bind (·.description?) =
      (description?.filter isCommentSafe).bind normalized := by
  have hlines : noteLines (description?.filter isCommentSafe) .emptyObject none false =
      ((description?.filter isCommentSafe).map descriptionLines).getD [] := by
    simp [noteLines, fieldTags, schemaTags, Schema.emptyObject]
  have htext : doc?.map (·.text.toList) =
      commentText 0 (noteLines (description?.filter isCommentSafe) .emptyObject none false) := by
    have hmapped := congrArg (Option.map String.toList) hdoc
    rw [hlines]
    simpa [descriptionComment?, Function.comp_def] using hmapped
  have hsafe : ∀ d ∈ description?.filter isCommentSafe, isCommentSafe d = true :=
    fun d hd => (Option.filter_eq_some_iff.mp hd).2
  have hlegible : (Schema.emptyObject.constraints).Legible := by
    constructor <;> simp [Schema.emptyObject, Schema.constraints, Constraints.none]
  exact (says_of_note hsafe hlegible (by simp) htext).description

namespace Syntax.WrittenInterface

variable {ctx : TypeContext} {s : ShapeInfo} {name : String} {p : InterfacePart}

/-- **The description of a descriptor is read back**, but for the blanks around its lines. -/
theorem Declares.value_description? (h : (writtenInterface name p).Declares s) (hctx : ctx.ReadsOwn s.decl)
    (hnames : ∀ v ∈ p.2, v.name ≠ "") (hother : ∀ v ∈ p.2, v.name ≠ "description") :
    (s.description? ctx.annotations).value.bind normalized = p.1.description?.bind normalized := by
  have hfields : writtenNamed? (writtenInterface name p).fields "description" =
      (p.1.description?.filter (!isCommentSafe ·)).map (writtenText "description") := by
    have hnone : writtenNamed? p.2 "description" = none :=
      List.find?_eq_none.mpr fun v hv heq => hother v hv (beq_iff_eq.mp heq)
    unfold writtenInterface descriptionField
    rw [writtenNamed?_append, hnone]
    cases p.1.description?.filter (!isCommentSafe ·) <;> simp [writtenNamed?, writtenText]
  cases hliteral : p.1.description?.filter (!isCommentSafe ·) with
  | some d =>
    rw [hliteral] at hfields
    obtain ⟨m, hm, hreads, -⟩ := h.exists_field hfields
    unfold ShapeInfo.description?
    rw [hm]
    simp only [h.textOf_eq hreads, Noted.value_pure, (Option.filter_eq_some_iff.mp hliteral).1]
  | none =>
    rw [hliteral] at hfields
    have hsafe : p.1.description?.filter isCommentSafe = p.1.description? := by
      cases hd : p.1.description? with
      | none => rfl
      | some d =>
        rw [hd, Option.filter_some] at hliteral
        cases hd' : isCommentSafe d <;> simp_all
    have hall : ∀ v ∈ (writtenInterface name p).fields, v.name ≠ "" := by
      intro v hv
      rcases List.mem_append.mp hv with hv | hv
      · rw [descriptionField, hliteral] at hv
        cases hv
      · exact hnames v hv
    unfold ShapeInfo.description?
    simp only [h.field?_eq_none hfields, Noted.value_pure]
    rw [h.declaration?_eq hctx hall, description_of_comment h.decl.doc, hsafe]
    cases p.1.description? with
    | none => rfl
    | some d =>
      cases hd : normalized d with
      | none => simp [hd]
      | some result => simp [hd, normalized_of_normalized hd]

/-! ## 3. Schemas -/

/-- Written fields whose types can be told apart in paths. -/
structure PlainField (v : WrittenField) : Prop where
  name : TypePath.IsPlain v.name
  type : ∀ e, v.type.Reads e → e.Everywhere TypeExpr.HasPlainFields

variable {w : WrittenInterface}

theorem Declares.plain (h : w.Declares s) (hplain : ∀ v ∈ w.fields, PlainField v)
    (hnodup : (w.fields.map (·.name)).Nodup) : s.decl.type.Everywhere TypeExpr.HasPlainFields := by
  obtain ⟨span, fs, htype, hfields⟩ := h.type
  rw [htype]
  refine TypeExpr.everywhere_object ⟨fun g hg => ?_, ?_⟩ fun g hg t ht => ?_
  · obtain ⟨v, hv, hreads⟩ := exists_of_forall₂_right hfields.forall₂ hg
    rw [hreads.name]
    exact (hplain v hv).name
  · rw [map_eq_of_forall₂ (f := (·.name)) (fun _ _ hg => hg.name) hfields.forall₂]
    exact hnodup
  · obtain ⟨v, hv, hreads⟩ := exists_of_forall₂_right hfields.forall₂ hg
    obtain ⟨e, he, htype⟩ := hreads.type
    obtain rfl := Option.some_inj.mp (he.symm.trans ht)
    exact (hplain v hv).type _ htype

/-- The field of a schema, with the tags of the schema in its comment. -/
def schemaField (name : String) (schema : Schema) : WrittenField :=
  ⟨fieldComment? 1 ⟨name, schema, true, none, none, false⟩, name, false, written 1 schema⟩

/-- **The schema of a field is read back.** -/
theorem Declares.value_schemaOf (h : w.Declares s) (hctx : ctx.ReadsOwn s.decl)
    (hplain : s.decl.type.Everywhere TypeExpr.HasPlainFields) {schema : Schema}
    (hschema : schema.Everywhere Schema.Writable) {m : MergedField} (hm : s.field? name = some m)
    (hreads : ReadsField (schemaField name schema) m.field) : (s.schemaOf ctx m).value = schema := by
  obtain ⟨span, fs, htype, -, hmerged⟩ := h.fields
  have hmem : m ∈ s.fields := List.mem_of_find?_eq_some hm
  rw [hmerged] at hmem
  obtain ⟨g, hg, rfl⟩ := List.mem_map.mp hmem
  have hroot := typeAt_root hplain
  rw [htype] at hroot
  have hat : FieldAt s.decl "" g := hroot.field hg
  obtain ⟨e, he, hwritten⟩ := hreads.type
  have hgname : g.name = name := hreads.name
  have hvalue : (TypeSchema.ofDeclared ctx (s.others ctx) s.decl.name g.name g.type?).value =
      TypeSchema.ofSchema (schema.withConstraints .none) := by
    rw [he, TypeSchema.ofDeclared]
    exact TypeSchema.value_ofType_written hctx 1 schema hschema hwritten (hat.type he)
  have hnote : ctx.annotations.get? s.decl.name g.name = g.doc?.map fun doc => (ofDoc doc).1 := by
    rw [hctx.annotations]
    exact hat.ofPlace?_eq (by simp [hctx.stray])
  have htext : g.doc?.map (·.text.toList) = commentText 1 (noteLines none schema none false) := by
    have hmapped := congrArg (Option.map String.toList) hreads.doc
    simpa [schemaField, fieldComment?, Function.comp_def] using hmapped
  have hsays := says_of_note (by simp) hschema.self.legible (by simp) htext
  rw [← hnote] at hsays
  unfold ShapeInfo.schemaOf
  simp only [Noted.value_bind, MergedField.name, MergedField.type?, ShapeInfo.name, hvalue]
  cases hget : ctx.annotations.get? s.decl.name g.name with
  | none =>
    rw [hget] at hsays
    exact Schema.withConstraints_of_none hsays.eq_none.2.1
  | some note =>
    rw [hget] at hsays
    exact Schema.value_withTags_of_saying hsays.tags hschema.self.placed _

/-- The fields of an object are read back; an object without fields is not written. -/
theorem Declares.value_objectFields? (h : w.Declares s) (hctx : ctx.ReadsOwn s.decl)
    (hplain : s.decl.type.Everywhere TypeExpr.HasPlainFields) {fields : List SchemaField}
    (hfields : (Schema.object fields).Everywhere Schema.Writable)
    (hv : writtenNamed? w.fields name = if fields.isEmpty then none else some (schemaField name (.object fields))) :
    (s.objectFields? ctx name).value.getD [] = fields := by
  unfold ShapeInfo.objectFields?
  cases fields with
  | nil =>
    rw [h.field?_eq_none hv]
    rfl
  | cons first rest =>
    obtain ⟨m, hm, hreads, -⟩ := h.exists_field hv
    have hschema := h.value_schemaOf hctx hplain hfields hm hreads
    simp only [hm, Noted.value_bind, hschema]
    rfl

end Syntax.WrittenInterface

end ServiceGraph
