import ServiceGraph.Proofs.Descriptor.Shapes
import ServiceGraph.Proofs.Graph.WellFormed

/-!
What schemas are made of.

A schema that is read from a type is built in a few ways (`Schema.Built`): from leaves that depend on the type
alone, from lists and objects, and from the tags of comments. So what holds of the tags of all comments
holds, in a suitable form, of all nodes of all schemas. That the reader builds nothing else is one induction
along the reader (`TypeSchema.built_ofType`); whatever is to be shown of its schemas is then shown by induction
on the way in which they are built.
-/

namespace ServiceGraph

open Syntax Schema

/-- A field has what a comment says about it, where the comment satisfies a condition; or nothing is said. -/
def SchemaFieldOf.SaidBy {σ : Type} (P : Annotation → Prop) (f : SchemaFieldOf σ) : Prop :=
  (f.description? = none ∧ f.default? = none) ∨
    ∃ note, P note ∧ f.description? = note.description? ∧ f.default? = note.tags.default?.map (·.value)

/-- Schemas as they are built from types and from comments that satisfy a condition. -/
inductive Schema.Built (P : Annotation → Prop) : Schema → Prop
  | plain (kind : LeafKind) : Built P (.plain kind)
  /-- The type of dates is a text with a format. -/
  | date : Built P (.leaf .string { Constraints.none with format? := some "date-time" })
  | enumeration {values : List String} : values ≠ [] → values.Nodup → Built P (.enumeration values)
  | unsupported (reason : String) : Built P (.unsupported reason)
  | listOf {items : Schema} : Built P items → Built P (.listOf items)
  | ofFields {fields : List SchemaField} : (∀ f ∈ fields, Built P f.schema) → (∀ f ∈ fields, f.SaidBy P) →
      Built P (.ofFields fields)
  | withTags {s : Schema} {note : Annotation} (subject : String) : P note → Built P s →
      Built P (s.withTags note.tags subject).value

/-! ## 1. What holds of all nodes -/

namespace Schema

/-- A property of nodes that is kept in every way to build a schema. -/
structure KeptBy (P : Annotation → Prop) (R : Schema → Prop) : Prop where
  plain : ∀ kind, R (.plain kind)
  date : R (.leaf .string { Constraints.none with format? := some "date-time" })
  enumeration : ∀ values, R (.enumeration values)
  unsupported : ∀ reason, R (.unsupported reason)
  listOf : ∀ items, R (.listOf items)
  object : ∀ fields, (∀ f ∈ fields, f.SaidBy P) → R (.object fields)
  constrained : ∀ note, P note → ∀ n, R n → R (n.withConstraints (note.tags.constrained n))

/-- Tags change the node that they stand at, and no node below it. -/
theorem everywhere_withTags {R : Schema → Prop} (henum : ∀ values, R (.enumeration values)) {tags : TagSet}
    (htags : ∀ n, R n → R (n.withConstraints (tags.constrained n))) (subject : String) {s : Schema}
    (hs : s.Everywhere R) : (s.withTags tags subject).value.Everywhere R := by
  have hbounds : ∀ n : Schema, n.Everywhere R → (n.withBounds tags subject).value.Everywhere R := by
    intro n hn
    rw [value_withBounds]
    have hroot := htags n hn.self
    cases n with
    | leaf kind c => exact everywhere_leaf hroot
    | list items c => exact everywhere_list hroot hn.items
    | enumeration values => exact hn
    | object fields => exact hn
    | unsupported reason => exact hn
  unfold withTags
  cases tags.enumValues? with
  | none => exact hbounds s hs
  | some tag =>
    refine hbounds _ ?_
    unfold withValues
    split
    · exact everywhere_enumeration (henum _)
    · split
      · exact everywhere_enumeration (henum _)
      · exact hs
    · exact hs
    · exact hs

/-- **What every way to build a schema keeps holds of all its nodes.** -/
theorem Built.everywhere {P : Annotation → Prop} {R : Schema → Prop} (hR : KeptBy P R) {s : Schema} (h : s.Built P) :
    s.Everywhere R := by
  induction h with
  | plain kind => exact everywhere_leaf (hR.plain kind)
  | date => exact everywhere_leaf hR.date
  | enumeration _ _ => exact everywhere_enumeration (hR.enumeration _)
  | unsupported reason => exact everywhere_unsupported (hR.unsupported reason)
  | listOf _ ih => exact everywhere_list (hR.listOf _) ih
  | @ofFields fields _ hsaid ih =>
    have hmem : ∀ f ∈ fields.foldl insertField [], f ∈ fields := fun f hf =>
      (mem_foldl_insertField fields [] hf).resolve_right (by simp)
    exact everywhere_object (hR.object _ fun f hf => hsaid f (hmem f hf)) fun f hf => ih f (hmem f hf)
  | withTags subject hnote _ ih => exact everywhere_withTags hR.enumeration (hR.constrained _ hnote) subject ih

end Schema

/-! ## 2. Reading types -/

/-- A field whose schema is built from types and comments, and which has what a comment says. -/
structure SchemaFieldOf.Built (P : Annotation → Prop) (f : SchemaField) : Prop where
  schema : f.schema.Built P
  said : f.SaidBy P

namespace TypeSchema

variable {P : Annotation → Prop} {ctx : TypeContext}

theorem built_ofKeyword (span : Span) (name : String) : (ofKeyword span name).value.schema.Built P := by
  unfold ofKeyword
  split <;> first | exact .plain _ | exact .unsupported _

theorem built_ofLiteral (span : Span) (value : Literal) : (ofLiteral span value).value.schema.Built P := by
  cases value with
  | string s => exact .enumeration (by simp) (by simp)
  | _ => exact .plain _

theorem built_ofForeignName (span : Span) (name : String) :
    (ofForeignName span name).value.schema.Built P := by
  unfold ofForeignName
  dsimp only
  split
  · exact .plain _
  · split
    · exact .date
    · split <;> exact .unsupported _

theorem built_ofMembers (span : Span) (first : TypeExpr) (rest : List TypeExpr) :
    (ofMembers span (first :: rest)).value.schema.Built P := by
  unfold ofMembers
  split
  · rename_i hall
    obtain ⟨s, hs⟩ := Option.isSome_iff_exists.mp (List.all_eq_true.mp hall first List.mem_cons_self)
    exact .enumeration (Naming.distinct_ne_nil (by simp [hs])) (Naming.nodup_distinct _)
  · split
    · exact .plain _
    · split
      · exact .plain _
      · exact .unsupported _

theorem built_field (htable : ctx.annotations.Every P) (owner path name : String) (mayBeMissing : Bool)
    {t : TypeSchema} (ht : t.schema.Built P) :
    (field ctx.annotations owner path name mayBeMissing t).value.Built P := by
  cases hnote : ctx.annotations.get? owner path with
  | none =>
    rw [field_of_none hnote]
    exact ⟨ht, .inl ⟨rfl, rfl⟩⟩
  | some note =>
    rw [value_field_of_some hnote]
    exact ⟨.withTags _ (htable.get? hnote) ht, .inr ⟨note, htable.get? hnote, rfl, rfl⟩⟩

mutual

/-- **Every schema that is read from a type is built from types and comments.** -/
theorem built_ofType (htable : ctx.annotations.Every P) (free : List String) (owner path : String)
    (t : TypeExpr) : (ofType ctx free owner path t).value.schema.Built P := by
  cases t with
  | keyword span name =>
    unfold ofType
    exact built_ofKeyword _ _
  | literal span value =>
    unfold ofType
    exact built_ofLiteral _ _
  | array span item =>
    unfold ofType
    exact .listOf (built_ofType htable free owner (TypePath.item path) item)
  | reference span name args =>
    match args with
    | [item] =>
      unfold ofType
      split
      · exact .listOf (built_ofType htable free owner (TypePath.item path) item)
      · exact built_ofName htable free span name
    | [] | _ :: _ :: _ =>
      unfold ofType
      exact built_ofName htable free span name
  | object span fields skipped =>
    unfold ofType
    have hfields := built_ofFields htable free owner path fields
    exact .ofFields (fun f hf => (hfields f hf).schema) fun f hf => (hfields f hf).said
  | union span members =>
    unfold ofType
    simp only [Noted.value_bind]
    split
    · exact .plain _
    · rename_i single hkept
      have := sizeOf_lt_of_kept hkept
      exact built_ofType htable free owner path single
    · rename_i first rest _ _
      exact built_ofMembers first.span first rest
  | tuple span items =>
    unfold ofType
    exact .unsupported _
  | intersection span items =>
    unfold ofType
    exact .unsupported _
  | function span =>
    unfold ofType
    exact .unsupported _
  | other span construct =>
    unfold ofType
    exact .unsupported _
termination_by (free.length, sizeOf t)

theorem built_ofName (htable : ctx.annotations.Every P) (free : List String) (span : Span)
    (name : String) : (ofName ctx free span name).value.schema.Built P := by
  unfold ofName
  split
  · exact built_ofForeignName _ _
  · rename_i s _
    split
    · rename_i hfree
      have : (free.erase s.name).length < free.length := by
        rw [List.length_erase_of_mem hfree]
        have := List.length_pos_of_mem hfree
        omega
      split
      · have hfields := built_ofMerged htable (free.erase s.name) s.fields
        exact .ofFields (fun f hf => (hfields f hf).schema) fun f hf => (hfields f hf).said
      · have ht := built_ofType htable (free.erase s.name) s.name "" s.decl.type
        simp only [Noted.value_bind]
        split
        · rename_i note hnote
          exact .withTags _ (htable.get? hnote) ht
        · exact ht
    · exact .unsupported _
termination_by (free.length, 0)

theorem built_ofFields (htable : ctx.annotations.Every P) (free : List String) (owner path : String)
    (fields : List (FieldOf TypeExpr)) : ∀ f ∈ (ofFields ctx free owner path fields).value, f.Built P := by
  unfold ofFields
  split
  · intro f hf
    simp at hf
  · rename_i f rest
    intro g hg
    rcases List.mem_cons.mp hg with rfl | hg
    · exact built_ofField htable free owner (TypePath.field path f.name) f
    · exact built_ofFields htable free owner path rest g hg
termination_by (free.length, sizeOf fields)

theorem built_ofMerged (htable : ctx.annotations.Every P) (free : List String)
    (fields : List MergedField) : ∀ f ∈ (ofMerged ctx free fields).value, f.Built P := by
  unfold ofMerged
  split
  · intro f hf
    simp at hf
  · rename_i f owner rest
    intro g hg
    rcases List.mem_cons.mp hg with rfl | hg
    · exact built_ofField htable free owner f.name f
    · exact built_ofMerged htable free rest g hg
termination_by (free.length, sizeOf fields)

theorem built_ofField (htable : ctx.annotations.Every P) (free : List String) (owner path : String)
    (f : FieldOf TypeExpr) : (ofField ctx free owner path f).value.Built P := by
  match f with
  | ⟨name, isOptional, isReadonly, type?, doc?, span⟩ =>
    unfold ofField
    exact built_field htable _ _ _ _ (built_ofDeclared htable free owner path type?)
termination_by (free.length, sizeOf f)

theorem built_ofDeclared (htable : ctx.annotations.Every P) (free : List String) (owner path : String)
    (type? : Option TypeExpr) : (ofDeclared ctx free owner path type?).value.schema.Built P := by
  unfold ofDeclared
  split
  · rename_i t
    exact built_ofType htable free owner path t
  · exact .plain _
termination_by (free.length, sizeOf type?)

end

end TypeSchema

/-! ## 3. Graphs -/

section

variable {P : Annotation → Prop} {ctx : TypeContext} (htable : ctx.annotations.Every P)

include htable

theorem ShapeInfo.built_schemaOf (s : ShapeInfo) (f : MergedField) : (s.schemaOf ctx f).value.Built P := by
  have ht := TypeSchema.built_ofDeclared htable (s.others ctx) f.owner f.name f.type?
  unfold schemaOf
  simp only [Noted.value_bind]
  split
  · rename_i note hnote
    exact .withTags _ (htable.get? hnote) ht
  · exact ht

/-- The fields of an object schema, or none. -/
theorem ShapeInfo.built_objectFields? (s : ShapeInfo) (name : String) :
    Schema.Built P (.object ((s.objectFields? ctx name).value.getD [])) := by
  have hempty : Schema.Built P (.object []) := @Schema.Built.ofFields P [] (by simp) (by simp)
  unfold objectFields?
  cases hf : s.field? name with
  | none => exact hempty
  | some f =>
    have hschema := built_schemaOf htable s f
    simp only [Noted.value_bind]
    cases hv : (s.schemaOf ctx f).value with
    | object fields => exact hv ▸ hschema
    | _ => exact hempty

theorem Operation.built_ofShape {s : ShapeInfo} {o : Operation} (h : (ofShape ctx s).value = some o) :
    ∀ root ∈ o.roots, root.Built P := by
  rw [value_ofShape, Option.map_eq_some_iff] at h
  obtain ⟨name, -, rfl⟩ := h
  intro root hroot
  rcases List.mem_cons.mp hroot with rfl | hroot
  · exact s.built_objectFields? htable "params"
  · obtain ⟨f, -, rfl⟩ := Option.map_eq_some_iff.mp (Option.mem_toList.mp hroot)
    exact s.built_schemaOf htable f

theorem Prompt.built_ofShape {s : ShapeInfo} {p : Prompt} (h : (ofShape ctx s).value = some p) :
    ∀ root ∈ p.roots, root.Built P := by
  rw [value_ofShape, Option.map_eq_some_iff] at h
  obtain ⟨name, -, rfl⟩ := h
  intro root hroot
  obtain rfl := List.mem_singleton.mp hroot
  exact s.built_objectFields? htable "args"

end

/-- **All schemas of a graph are built from types and comments.** -/
theorem Analysis.built_of_mem_roots {P : Annotation → Prop} {f : SourceFile}
    (htable : (context f).annotations.Every P) : ∀ root ∈ (ofFile f).graph.roots, root.Built P := by
  intro root hroot
  rw [graph_ofFile, Scope.roots_bind] at hroot
  rcases List.mem_append.mp hroot with hr | hr
  · obtain ⟨o, ho, hr⟩ := List.mem_flatMap.mp hr
    obtain ⟨l, hl, rfl⟩ := List.mem_map.mp ho
    obtain ⟨s, -, -, hs, -⟩ := Draft.exists_operation hl
    exact Operation.built_ofShape htable hs root hr
  · obtain ⟨p, hp, hr⟩ := List.mem_flatMap.mp hr
    obtain ⟨l, hl, rfl⟩ := List.mem_map.mp hp
    obtain ⟨s, -, -, hs, -⟩ := Draft.exists_prompt hl
    exact Prompt.built_ofShape htable hs root hr

end ServiceGraph
