import ServiceGraph.Proofs.Annotation.Paths
import ServiceGraph.Proofs.Emission.Types
import ServiceGraph.Proofs.Schema.OfType
import ServiceGraph.Proofs.Schema.Stack

/-!
Schemas are read back from the types they are written as (`TypeSchema.value_ofType_written`).

The type of a schema says nothing about its constraints: those stand in the comment of the field. So a type is
read as the schema without the constraints of its root, and the tags of the field put them back
(`Schema.value_withTags_of_saying`). A list has its constraints in the comment of the field too, and its items have
none.
-/

namespace ServiceGraph

open Syntax Emission Written Annotation

/-! ## 1. Tags that give constraints -/

section

variable {α : Type} {tags : TagSet} {s : Schema} {default? : Option Json} {isDeprecated : Bool}

theorem Tagged.appliedTo_unplaced (tag? : Option (Tagged α)) (belongs : Bool) (c? : Option α) :
    Tagged.appliedTo (tag?.map Tagged.unplaced) belongs c? = Tagged.appliedTo tag? belongs c? := by
  cases tag? <;> rfl

/-- Where tags stand does not matter for the constraints. -/
theorem TagSet.constrained_erased (tags : TagSet) (s : Schema) :
    tags.erased.constrained s = tags.constrained s := by
  simp [TagSet.constrained, TagSet.erased, Tagged.appliedTo_unplaced]

/-- A constraint that may stand where it stands is put back by its tag. -/
theorem Tagged.appliedTo_of_value {belongs : Bool} {c? : Option α} (h : belongs = false → c? = none) :
    Tagged.appliedTo (c?.map (⟨·, .origin⟩)) belongs none = c? := by
  cases c? with
  | none => rfl
  | some x =>
    cases belongs with
    | true => rfl
    | false => cases h rfl

namespace Schema

theorem withConstraints_constraints (s : Schema) (c : Constraints) :
    (s.withConstraints c).withConstraints s.constraints = s := by
  cases s <;> rfl

theorem withConstraints_of_none (h : s.constraints = .none) : s.withConstraints .none = s := by
  cases s <;> simp_all [constraints, withConstraints]

/-- **Tags for the constraints of a schema put them back.** -/
theorem value_withTags_of_saying (htags : tags.erased = .saying s.constraints default? isDeprecated)
    (hplaced : s.Placed) (subject : String) :
    ((s.withConstraints .none).withTags tags subject).value = s := by
  have hvalues : tags.enumValues? = none := by
    have herased := congrArg TagSet.enumValues? htags
    simpa [TagSet.erased, TagSet.saying] using herased
  have hconstrained : tags.constrained (s.withConstraints .none) = s.constraints := by
    rw [← TagSet.constrained_erased, htags]
    have hnumber : (s.withConstraints .none).isNumber = s.isNumber := by cases s <;> rfl
    have hsized : (s.withConstraints .none).isSized = s.isSized := by
      cases s with
      | leaf kind c => cases kind <;> rfl
      | _ => rfl
    have htext : (s.withConstraints .none).isText = s.isText := by
      cases s with
      | leaf kind c => cases kind <;> rfl
      | _ => rfl
    have hnone : (s.withConstraints .none).constraints = .none := by cases s <;> rfl
    simp only [TagSet.constrained, TagSet.saying, hnumber, hsized, htext, hnone]
    simp only [Constraints.none]
    rw [Tagged.appliedTo_of_value fun h => (hplaced.bounds h).1,
      Tagged.appliedTo_of_value fun h => (hplaced.bounds h).2,
      Tagged.appliedTo_of_value fun h => (hplaced.lengths h).1,
      Tagged.appliedTo_of_value fun h => (hplaced.lengths h).2,
      Tagged.appliedTo_of_value fun h => (hplaced.texts h).1,
      Tagged.appliedTo_of_value fun h => (hplaced.texts h).2]
  unfold withTags
  rw [hvalues, Noted.value_bind, value_withBounds, Noted.value_pure, hconstrained, withConstraints_constraints]

end Schema

/-- If no comment says it, there is nothing to say. -/
theorem Annotation.Says.eq_none {description? : Option String}
    (h : Says none description? (.saying s.constraints default? isDeprecated)) :
    description? = none ∧ s.constraints = .none ∧ default? = none ∧ isDeprecated = false := by
  have htags : TagSet.empty = .saying s.constraints default? isDeprecated := h.tags
  have hnone : ∀ {β : Type} {x? : Option β} {f : β → Tagged β}, none = x?.map f → x? = none := by
    intro β x? f hx
    cases x? with
    | none => rfl
    | some x => cases hx
  refine ⟨h.description.symm, ?_, hnone (congrArg TagSet.default? htags),
    (congrArg TagSet.isDeprecated htags).symm⟩
  cases hc : s.constraints with
  | mk minimum? maximum? minLength? maxLength? pattern? format? =>
    rw [hc] at htags
    obtain rfl : minimum? = none := hnone (congrArg TagSet.minimum? htags)
    obtain rfl : maximum? = none := hnone (congrArg TagSet.maximum? htags)
    obtain rfl : minLength? = none := hnone (congrArg TagSet.minLength? htags)
    obtain rfl : maxLength? = none := hnone (congrArg TagSet.maxLength? htags)
    obtain rfl : pattern? = none := hnone (congrArg TagSet.pattern? htags)
    obtain rfl : format? = none := hnone (congrArg TagSet.format? htags)
    rfl

namespace TypeSchema

variable {annotations : AnnotationTable} {owner path : String} {description? : Option String}

/-- **A field is read back from its type and its comment.** -/
theorem value_field_of_says
    (h : Says (annotations.get? owner path) description? (.saying s.constraints default? isDeprecated))
    (hplaced : s.Placed) (name : String) (mayBeMissing : Bool) :
    (field annotations owner path name mayBeMissing (ofSchema (s.withConstraints .none))).value =
      ⟨name, s, !mayBeMissing, description?, default?, isDeprecated⟩ := by
  cases hnote : annotations.get? owner path with
  | none =>
    rw [hnote] at h
    obtain ⟨rfl, hc, rfl, rfl⟩ := h.eq_none
    rw [field_of_none hnote, Noted.value_pure, Schema.withConstraints_of_none hc]
    simp [ofSchema]
  | some note =>
    rw [hnote] at h
    have htags : note.tags.erased = .saying s.constraints default? isDeprecated := h.tags
    have hrequired : note.tags.required? = none := by
      have herased := congrArg TagSet.required? htags
      simpa [TagSet.erased, TagSet.saying] using herased
    have hdefault : note.tags.default?.map (·.value) = default? := by
      have herased := congrArg (fun t => t.default?.map (·.value)) htags
      simpa [TagSet.erased, TagSet.saying, Function.comp_def, Tagged.unplaced] using herased
    have hdeprecated : note.tags.isDeprecated = isDeprecated := congrArg TagSet.isDeprecated htags
    have hdescription : note.description? = description? := h.description
    rw [value_field_of_some hnote, hdescription, hdefault, hdeprecated, hrequired]
    simp [ofSchema, Schema.value_withTags_of_saying htags hplaced]

end TypeSchema

end

/-! ## 2. Written types -/

mutual

/-- The fields of a written type can be told apart in paths. -/
theorem hasPlainFields_of_written (level : Nat) (s : Schema) (h : s.Everywhere Schema.Writable) {e : TypeExpr}
    (hreads : (written level s).Reads e) : e.Everywhere TypeExpr.HasPlainFields := by
  match s with
  | .leaf kind c =>
    obtain ⟨span, rfl⟩ := hreads
    cases kind with
    | null => exact TypeExpr.everywhere_literal trivial
    | integer => exact TypeExpr.everywhere_reference trivial (by simp)
    | string | number | boolean | any => exact TypeExpr.everywhere_keyword trivial
  | .enumeration [] => exact absurd rfl (h.self.values [] rfl).1
  | .enumeration [value] =>
    obtain ⟨span, rfl⟩ := hreads
    exact TypeExpr.everywhere_literal trivial
  | .enumeration (first :: second :: others) =>
    obtain ⟨span, es, rfl, htexts⟩ := hreads
    refine TypeExpr.everywhere_union trivial fun t ht => ?_
    have hmem : t.string? ∈ (first :: second :: others).map some := htexts ▸ List.mem_map_of_mem ht
    obtain ⟨value, -, hvalue⟩ := List.mem_map.mp hmem
    cases t with
    | literal span value => exact TypeExpr.everywhere_literal trivial
    | _ => cases hvalue
  | .list items c =>
    obtain ⟨span, item, rfl, hitem⟩ := hreads
    refine TypeExpr.everywhere_reference trivial fun t ht => ?_
    obtain rfl := List.mem_singleton.mp ht
    exact hasPlainFields_of_written level items h.items hitem
  | .object fields =>
    obtain ⟨span, fs, rfl, hfields⟩ := hreads
    obtain ⟨hnames, hplain⟩ := plain_of_writtenFields (level + 1) fields h.fieldsWritable hfields
    refine TypeExpr.everywhere_object ⟨fun f hf => (hplain f hf).1, ?_⟩ fun f hf => (hplain f hf).2
    rw [hnames]
    exact h.self.names fields rfl
  | .unsupported reason => exact absurd rfl (h.self.supported reason)

theorem plain_of_writtenFields (level : Nat) (fields : List SchemaField) (h : Schema.FieldsWritable fields)
    {fs : List Field} (hreads : ReadsFields (writtenFields level fields) fs) :
    fs.map (·.name) = fields.map (·.name) ∧ ∀ f ∈ fs, TypePath.IsPlain f.name ∧
      ∀ t ∈ f.type?, t.Everywhere TypeExpr.HasPlainFields := by
  match fields with
  | [] =>
    obtain rfl := hreads
    exact ⟨rfl, by simp⟩
  | ⟨name, schema, isRequired, description?, default?, isDeprecated⟩ :: rest =>
    obtain ⟨e, doc?, span, others, rfl, hdoc, htype, hmore⟩ := hreads
    obtain ⟨hnames, hplain⟩ := plain_of_writtenFields level rest h.tail hmore
    refine ⟨by rw [List.map_cons, List.map_cons, hnames], fun f hf => ?_⟩
    rcases List.mem_cons.mp hf with rfl | hf
    · refine ⟨h.head.1.path, fun t ht => ?_⟩
      obtain rfl := Option.some_inj.mp ht
      exact hasPlainFields_of_written level schema h.head.2 htype
    · exact hplain f hf

end

/-! ## 3. Reading them -/

/-- Comments inside a shape are looked up in that shape, and its comments are all at places of their own. -/
structure TypeContext.ReadsOwn (ctx : TypeContext) (d : ShapeDecl) : Prop where
  annotations : ∀ path, ctx.annotations.get? d.name path = ofPlace? d path
  stray : strayDocs d = []
  integer : ctx.catalog.get? "Integer" = none

namespace TypeSchema

variable {ctx : TypeContext} {free : List String} {d : ShapeDecl}

/-- A union of different texts is an enumeration. -/
theorem value_ofType_texts {values : List String} {es : List TypeExpr}
    (htexts : es.map TypeExpr.string? = values.map some) (hseveral : 2 ≤ values.length) (hnodup : values.Nodup) (owner path : String) (span : Span) :
    (ofType ctx free owner path (.union span es)).value = ofSchema (.enumeration values) := by
  have htext : ∀ t ∈ es, ∃ span value, t = .literal span (.string value) := by
    intro t ht
    have hmem : t.string? ∈ values.map some := htexts ▸ List.mem_map_of_mem ht
    obtain ⟨value, -, hvalue⟩ := List.mem_map.mp hmem
    unfold TypeExpr.string? at hvalue
    split at hvalue
    · exact ⟨_, _, rfl⟩
    · cases hvalue
  have hkept : kept es = es := by
    refine List.filter_eq_self.mpr fun t ht => ?_
    obtain ⟨span, value, rfl⟩ := htext t ht
    rfl
  have hoptional : es.any isUndefinedType = false := by
    refine List.any_eq_false.mpr fun t ht => ?_
    obtain ⟨span, value, rfl⟩ := htext t ht
    simp [isUndefinedType]
  have hall : es.all (·.string?.isSome) = true := by
    refine List.all_eq_true.mpr fun t ht => ?_
    obtain ⟨span, value, rfl⟩ := htext t ht
    rfl
  have hvalues : es.filterMap (·.string?) = values := by
    have hmapped := congrArg (List.filterMap id) htexts
    simpa [List.filterMap_map, Function.comp_def] using hmapped
  have hlength := congrArg List.length htexts
  rw [List.length_map, List.length_map] at hlength
  rcases es with _ | ⟨first, _ | ⟨second, rest⟩⟩
  · simp at hlength
    omega
  · simp at hlength
    omega
  · rw [value_ofType_several hkept, hoptional, ofMembers, if_pos hall, hvalues, Naming.distinct_of_nodup hnodup]
    rfl

/-- A word is a leaf without constraints. -/
theorem value_ofType_word (hinteger : ctx.catalog.get? "Integer" = none) (kind : LeafKind) (owner path : String)
    (span : Span) :
    (ofType ctx free owner path (wordType span (leafType kind))).value = ofSchema (.plain kind) := by
  cases kind with
  | string | number | boolean | any | null =>
    unfold leafType wordType
    rw [ofType.eq_def]
    rfl
  | integer =>
    have hlast : TypeExpr.lastSegment "Integer" = "Integer" := by decide
    change (ofType ctx free owner path (.reference span "Integer" [])).value = _
    rw [ofType_reference (by simp), ofName_foreign (by rwa [hlast]), ofForeignName, hlast]
    rfl

variable (hctx : ctx.ReadsOwn d)

include hctx

mutual

/-- **A written type is read as its schema**, without the constraints of its root. -/
theorem value_ofType_written (level : Nat) (s : Schema) (h : s.Everywhere Schema.Writable) {e : TypeExpr}
    (hreads : (written level s).Reads e) {path : String} (hat : TypeAt d path e) :
    (ofType ctx free d.name path e).value = ofSchema (s.withConstraints .none) := by
  match s with
  | .leaf kind c =>
    obtain ⟨span, rfl⟩ := hreads
    exact value_ofType_word hctx.integer kind d.name path span
  | .enumeration [] => exact absurd rfl (h.self.values [] rfl).1
  | .enumeration [value] =>
    obtain ⟨span, rfl⟩ := hreads
    rw [ofType]
    rfl
  | .enumeration (first :: second :: others) =>
    obtain ⟨span, es, rfl, htexts⟩ := hreads
    exact value_ofType_texts htexts (by simp) (h.self.values _ rfl).2.1 d.name path span
  | .list items c =>
    obtain ⟨span, item, rfl, hitem⟩ := hreads
    have hlist : TypePath.isListName "Array" = true := rfl
    rw [value_ofType_argument hlist, value_ofType_written level items h.items hitem (hat.argument hlist),
      Schema.withConstraints_of_none (h.self.items items c rfl)]
    rfl
  | .object fields =>
    obtain ⟨span, fs, rfl, hfields⟩ := hreads
    rw [value_ofType_object, map_fieldAt_written (level + 1) fields h.fieldsWritable hfields fun f hf => hat.field hf,
      Schema.ofFields_of_nodup (h.self.names fields rfl)]
    rfl
  | .unsupported reason => exact absurd rfl (h.self.supported reason)

theorem map_fieldAt_written (level : Nat) (fields : List SchemaField) (h : Schema.FieldsWritable fields)
    {fs : List Field} (hreads : ReadsFields (writtenFields level fields) fs) {path : String}
    (hat : ∀ f ∈ fs, FieldAt d path f) : (placesOf d.name path fs).map (fieldAt ctx free) = fields := by
  match fields with
  | [] =>
    obtain rfl := hreads
    rfl
  | ⟨name, schema, isRequired, description?, default?, isDeprecated⟩ :: rest =>
    obtain ⟨e, doc?, span, others, rfl, hdoc, htype, hmore⟩ := hreads
    obtain ⟨hfield, hschema⟩ := h.head
    have hself := hat _ List.mem_cons_self
    have hvalue := value_ofType_written level schema hschema htype (hself.type rfl)
    have hnote : ctx.annotations.get? d.name (TypePath.field path name) = doc?.map fun doc => (ofDoc doc).1 := by
      rw [hctx.annotations]
      exact hself.ofPlace?_eq (by simp [hctx.stray])
    have htext : doc?.map (·.text.toList) =
        commentText level (noteLines description? schema default? isDeprecated) := by
      have hmapped := congrArg (Option.map String.toList) hdoc
      simpa [fieldComment?, Function.comp_def] using hmapped
    have hsays := says_of_note (fun d hd => (hfield.description d hd).safe) hschema.self.legible hfield.default htext
    have hdescription : description?.bind normalized = description? := by
      cases description? with
      | none => rfl
      | some text => exact (hfield.description text rfl).normalized
    rw [hdescription, ← hnote] at hsays
    have hrest := map_fieldAt_written level rest h.tail hmore fun f hf => hat f (List.mem_cons_of_mem _ hf)
    have hfirst : fieldAt ctx free (⟨name, !isRequired, false, some e, doc?, span⟩, d.name, TypePath.field path name) =
        ⟨name, schema, isRequired, description?, default?, isDeprecated⟩ := by
      rw [fieldAt, value_ofField, ofDeclared, hvalue, value_field_of_says hsays hschema.self.placed]
      simp
    rw [placesOf, List.map_cons, List.map_cons, hfirst]
    exact congrArg _ hrest

end

end TypeSchema

end ServiceGraph
