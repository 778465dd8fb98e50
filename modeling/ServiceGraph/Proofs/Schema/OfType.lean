import ServiceGraph.Proofs.Schema.Accounted

/-!
Every schema that is read from a type is accounted for by the notes of reading it
(`TypeSchema.accounted_ofType`), whatever the type, the shapes and the comments are.

The reader is one recursion over six functions, and so is the proof. What ends the recursion are the leaves
(keywords, literals, names without a shape, unions); each has a lemma of its own first.
-/

namespace ServiceGraph

open Syntax Schema

/-- A schema that is accounted for by the notes it comes with. -/
def Noted.Accounted (x : Noted TypeSchema) : Prop :=
  x.value.schema.Everywhere (Schema.Accounted x.notes)

/-- Fields that are accounted for by the notes they come with. -/
def Noted.FieldsAccounted (x : Noted (List SchemaField)) : Prop :=
  ∀ f ∈ x.value, Schema.FieldAccounted x.notes f

namespace TypeSchema

/-! ## 1. Leaves -/

theorem accounted_unsupported (span : Span) (what : String) :
    (TypeSchema.unsupported span what).Accounted :=
  Schema.accounted_unsupported span List.mem_cons_self

theorem accounted_ofKeyword (span : Span) (name : String) : (ofKeyword span name).Accounted := by
  unfold ofKeyword
  split <;> first | exact accounted_plain _ | exact accounted_unsupported _ _

theorem accounted_ofLiteral (span : Span) (value : Literal) : (ofLiteral span value).Accounted := by
  cases value with
  | string s => exact accounted_enumeration (by simp) (by simp)
  | _ => exact accounted_plain _

theorem accounted_ofForeignName (span : Span) (name : String) :
    (ofForeignName span name).Accounted := by
  unfold ofForeignName
  dsimp only
  split
  · exact accounted_plain _
  · split
    · exact accounted_formatted _
    · split
      · exact accounted_unsupported _ _
      · exact accounted_unsupported _ _

theorem accounted_ofMembers (span : Span) (first : TypeExpr) (rest : List TypeExpr) :
    (ofMembers span (first :: rest)).Accounted := by
  unfold ofMembers
  split
  · rename_i hall
    apply accounted_enumeration _ (Naming.nodup_distinct _)
    apply Naming.distinct_ne_nil
    obtain ⟨s, hs⟩ := Option.isSome_iff_exists.mp (List.all_eq_true.mp hall first List.mem_cons_self)
    simp [hs]
  · split
    · exact accounted_plain _
    · split
      · exact accounted_plain _
      · exact accounted_unsupported _ _

/-! ## 2. Steps -/

variable {ctx : TypeContext}

/-- Notes in front and behind change nothing. -/
theorem accounted_of_subset {x y : Noted TypeSchema} (h : x.Accounted)
    (hv : y.value.schema = x.value.schema) (hn : x.notes ⊆ y.notes) : y.Accounted := by
  unfold Noted.Accounted
  rw [hv]
  exact h.mono fun _ ha => ha.mono hn

theorem accounted_listOf {x y : Noted TypeSchema} (h : x.Accounted)
    (hv : y.value.schema = .listOf x.value.schema) (hn : x.notes ⊆ y.notes) : y.Accounted := by
  unfold Noted.Accounted
  rw [hv]
  exact Schema.accounted_listOf (h.mono fun _ ha => ha.mono hn)

theorem accounted_ofFields {x : Noted (List SchemaField)} {y : Noted TypeSchema}
    (h : x.FieldsAccounted) (hv : y.value.schema = .ofFields x.value) (hn : x.notes ⊆ y.notes) :
    y.Accounted := by
  unfold Noted.Accounted
  rw [hv]
  exact Schema.accounted_ofFields fun f hf => (h f hf).mono hn

theorem fieldsAccounted_cons {x : Noted SchemaField} {y z : Noted (List SchemaField)}
    (hx : FieldAccounted x.notes x.value) (hy : y.FieldsAccounted)
    (hv : z.value = x.value :: y.value) (hn : x.notes ⊆ z.notes) (hm : y.notes ⊆ z.notes) :
    z.FieldsAccounted := by
  intro f hf
  rw [hv] at hf
  rcases List.mem_cons.mp hf with rfl | hf
  · exact hx.mono hn
  · exact (hy f hf).mono hm

section Field

variable {annotations : AnnotationTable} {owner path name : String} {mayBeMissing : Bool}
  {t : TypeSchema}

theorem field_of_none (h : annotations.get? owner path = none) :
    field annotations owner path name mayBeMissing t =
      pure ⟨name, t.schema, !(mayBeMissing || t.isOptional), none, none, false⟩ := by
  simp [field, h]

/-- A field with a comment. -/
theorem value_field_of_some {note : Annotation} (h : annotations.get? owner path = some note) :
    (field annotations owner path name mayBeMissing t).value =
      ⟨name, (t.schema.withTags note.tags (subject owner path)).value,
        (note.tags.required?.map (·.value)).getD !(mayBeMissing || t.isOptional), note.description?,
        note.tags.default?.map (·.value), note.tags.isDeprecated⟩ := by
  unfold field
  simp only [h]
  cases hd : note.tags.default? with
  | none => rfl
  | some tag =>
    simp only [Noted.value_bind]
    split <;> split <;> rfl

/-- What is noted of a field with a comment: what is noted of its tags, and that its default does not
fit. -/
theorem notes_field_of_some (name : String) (mayBeMissing : Bool) (t : TypeSchema)
    {note : Annotation} (h : annotations.get? owner path = some note) :
    (t.schema.withTags note.tags (subject owner path)).notes ⊆
        (field annotations owner path name mayBeMissing t).notes ∧
      ∀ tag ∈ note.tags.default?, ∀ reason ∈
        (t.schema.withTags note.tags (subject owner path)).value.objection? tag.value,
        .finding ⟨.defaultViolation reason, tag.span, subject owner path⟩ ∈
          (field annotations owner path name mayBeMissing t).notes := by
  unfold field
  simp only [h]
  cases hd : note.tags.default? with
  | none => exact ⟨by simp, by simp⟩
  | some tag =>
    simp only [Noted.notes_bind]
    refine ⟨List.subset_append_left _ _, fun tag' htag reason hreason => ?_⟩
    cases htag
    rw [Option.mem_def] at hreason
    rw [hreason]
    simp

/-- The tags of a field and its default. -/
theorem accounted_field (htable : annotations.Every (·.tags.Sound)) {notes : List Note}
    (ht : t.schema.Everywhere (Schema.Accounted notes)) :
    FieldAccounted (notes ++ (field annotations owner path name mayBeMissing t).notes)
      (field annotations owner path name mayBeMissing t).value := by
  cases hnote : annotations.get? owner path with
  | none =>
    rw [field_of_none hnote]
    refine ⟨ht.mono fun _ ha => ha.mono (List.subset_append_left _ _), ?_⟩
    intro value hvalue
    simp at hvalue
  | some note =>
    have htags := accounted_withTags (htable.get? hnote) (subject owner path) ht
    obtain ⟨hsub, hdefault⟩ := notes_field_of_some name mayBeMissing t hnote
    rw [value_field_of_some hnote]
    constructor
    · exact htags.mono fun _ ha => ha.mono (List.append_subset.mpr
        ⟨List.subset_append_left _ _, fun _ hn => List.mem_append_right _ (hsub hn)⟩)
    · intro value hvalue reason hreason
      obtain ⟨tag, htag, rfl⟩ := Option.map_eq_some_iff.mp hvalue
      exact ⟨tag.span, subject owner path, List.mem_append_right _ (hdefault tag htag reason hreason)⟩

end Field

/-! ## 3. The recursion -/

mutual

/-- Every schema that is read from a type is accounted for. -/
theorem accounted_ofType (htable : ctx.annotations.Every (·.tags.Sound)) (free : List String)
    (owner path : String) (t : TypeExpr) : (ofType ctx free owner path t).Accounted := by
  cases t with
  | keyword span name =>
    unfold ofType
    exact accounted_ofKeyword _ _
  | literal span value =>
    unfold ofType
    exact accounted_ofLiteral _ _
  | array span item =>
    unfold ofType
    exact accounted_listOf (accounted_ofType htable free owner (TypePath.item path) item) rfl
      (by simp)
  | reference span name args =>
    match args with
    | [item] =>
      unfold ofType
      split
      · exact accounted_listOf (accounted_ofType htable free owner (TypePath.item path) item) rfl
          (by simp)
      · exact accounted_ofName htable free span name
    | [] | _ :: _ :: _ =>
      unfold ofType
      exact accounted_ofName htable free span name
  | object span fields skipped =>
    unfold ofType
    exact accounted_ofFields (accounted_fields htable free owner path fields) rfl (by simp)
  | union span members =>
    unfold ofType
    dsimp only
    split
    · exact accounted_of_subset (accounted_ofKeyword Span.none "null") rfl (by simp [ofKeyword])
    · rename_i single hkept
      have := sizeOf_lt_of_kept hkept
      exact accounted_of_subset (accounted_ofType htable free owner path single) rfl (by simp)
    · rename_i first rest _ _
      exact accounted_of_subset (accounted_ofMembers first.span first rest) rfl (by simp)
  | tuple span items =>
    unfold ofType
    exact accounted_unsupported _ _
  | intersection span items =>
    unfold ofType
    exact accounted_unsupported _ _
  | function span =>
    unfold ofType
    exact accounted_unsupported _ _
  | other span construct =>
    unfold ofType
    exact accounted_unsupported _ _
termination_by (free.length, sizeOf t)

theorem accounted_ofName (htable : ctx.annotations.Every (·.tags.Sound)) (free : List String)
    (span : Span) (name : String) : (ofName ctx free span name).Accounted := by
  unfold ofName
  split
  · exact accounted_ofForeignName _ _
  · rename_i s _
    split
    · rename_i hfree
      have : (free.erase s.name).length < free.length := by
        rw [List.length_erase_of_mem hfree]
        have := List.length_pos_of_mem hfree
        omega
      split
      · exact accounted_ofFields (accounted_ofMerged htable (free.erase s.name) s.fields) rfl (by simp)
      · have ht := accounted_ofType htable (free.erase s.name) s.name "" s.decl.type
        cases hnote : ctx.annotations.declaration? s.name with
        | none => exact accounted_of_subset ht rfl (by simp)
        | some note =>
          have htags := accounted_withTags (htable.get? hnote) s.name ht
          unfold Noted.Accounted
          simpa using htags
    · exact accounted_unsupported _ _
termination_by (free.length, 0)

theorem accounted_fields (htable : ctx.annotations.Every (·.tags.Sound)) (free : List String)
    (owner path : String) (fields : List (FieldOf TypeExpr)) :
    (ofFields ctx free owner path fields).FieldsAccounted := by
  unfold ofFields
  split
  · intro f hf
    simp at hf
  · rename_i f rest
    exact fieldsAccounted_cons (accounted_ofField htable free owner (TypePath.field path f.name) f)
      (accounted_fields htable free owner path rest) rfl (by simp) (by simp)
termination_by (free.length, sizeOf fields)

theorem accounted_ofMerged (htable : ctx.annotations.Every (·.tags.Sound)) (free : List String)
    (fields : List MergedField) : (ofMerged ctx free fields).FieldsAccounted := by
  unfold ofMerged
  split
  · intro f hf
    simp at hf
  · rename_i f owner rest
    exact fieldsAccounted_cons (accounted_ofField htable free owner f.name f)
      (accounted_ofMerged htable free rest) rfl (by simp) (by simp)
termination_by (free.length, sizeOf fields)

theorem accounted_ofField (htable : ctx.annotations.Every (·.tags.Sound)) (free : List String)
    (owner path : String) (f : FieldOf TypeExpr) :
    FieldAccounted (ofField ctx free owner path f).notes (ofField ctx free owner path f).value := by
  match f with
  | ⟨name, isOptional, isReadonly, type?, doc?, span⟩ =>
    unfold ofField
    exact accounted_field htable (accounted_ofDeclared htable free owner path type?)
termination_by (free.length, sizeOf f)

theorem accounted_ofDeclared (htable : ctx.annotations.Every (·.tags.Sound)) (free : List String)
    (owner path : String) (type? : Option TypeExpr) :
    (ofDeclared ctx free owner path type?).Accounted := by
  unfold ofDeclared
  split
  · rename_i t
    exact accounted_ofType htable free owner path t
  · exact accounted_plain _
termination_by (free.length, sizeOf type?)

end

end TypeSchema

end ServiceGraph
