import ServiceGraph.Descriptor.OfShape
import ServiceGraph.Proofs.Schema.OfType

/-!
What the descriptors that shapes declare are like, and what is noted about them.

* Their schemas are accounted for by the notes of reading them (`Operation.ofShape_sound`,
  `Prompt.ofShape_sound`); parameters are an object, and arguments have different names.
* A resource whose URI is none, or that is static although it should not be, is a problem
  (`Resource.ofShape_sound`).
* A group has one place for each operation that it lists (`Group.length_items`).
* None of them is bound yet.
-/

namespace ServiceGraph

open Syntax

/-- Notes without an error among the problems. -/
def Note.ErrorFree (notes : List Note) : Prop := ∀ d, .problem d ∈ notes → d.isError = false

theorem Note.ErrorFree.mono {notes more : List Note} (h : ErrorFree more) (hsub : notes ⊆ more) :
    ErrorFree notes :=
  fun d hd => h d (hsub hd)

variable {ctx : TypeContext} {s : ShapeInfo}

namespace ShapeInfo

theorem accounted_schemaOf (htable : ctx.annotations.Every (·.tags.Sound)) (f : MergedField) :
    (s.schemaOf ctx f).value.Everywhere (Schema.Accounted (s.schemaOf ctx f).notes) := by
  have ht := TypeSchema.accounted_ofDeclared htable (s.others ctx) f.owner f.name f.type?
  unfold schemaOf
  cases hnote : ctx.annotations.get? f.owner f.name with
  | none => exact ht.mono fun _ ha => ha.mono (by simp)
  | some note =>
    have htags := Schema.accounted_withTags (htable.get? hnote)
      (TypeSchema.subject f.owner f.name) ht
    simpa [hnote] using htags

/-- The fields of an object schema. -/
theorem accounted_objectFields? (htable : ctx.annotations.Every (·.tags.Sound)) {name : String}
    {fields : List SchemaField} (h : (s.objectFields? ctx name).value = some fields) :
    Schema.Everywhere (Schema.Accounted (s.objectFields? ctx name).notes) (.object fields) := by
  unfold objectFields? at h ⊢
  cases hf : s.field? name with
  | none => simp [hf] at h
  | some f =>
    have hschema := accounted_schemaOf (s := s) htable f
    simp only [hf, Noted.value_bind, Noted.notes_bind] at h ⊢
    cases hv : (s.schemaOf ctx f).value with
    | object fields' =>
      rw [hv] at h hschema
      have heq : fields' = fields := by simpa using h
      subst heq
      exact hschema.mono fun _ ha => ha.mono (by simp)
    | _ => rw [hv] at h; simp at h

end ShapeInfo

/-! ## 1. Operations -/

namespace Operation

/-- The schemas of an operation. -/
def roots (o : Operation) : List Schema := o.params :: o.result?.toList

/-- What holds of an operation before it is bound. -/
structure Sound (notes : List Note) (o : Operation) : Prop where
  params : ∃ fields, o.params = .object fields
  schemas : ∀ root ∈ o.roots, root.Everywhere (Schema.Accounted notes)
  unbound : o.handler? = none

theorem value_ofShape (ctx : TypeContext) (s : ShapeInfo) : (ofShape ctx s).value =
    (s.requiredText? "name").value.map fun name =>
      ⟨name, (s.description? ctx.annotations).value,
        .object ((s.objectFields? ctx "params").value.getD []),
        (s.field? "result").map fun f => (s.schemaOf ctx f).value,
        (OperationFlags.ofShape s).value, none⟩ := by
  unfold ofShape
  cases s.field? "result" <;> rfl

theorem notes_params_subset (ctx : TypeContext) (s : ShapeInfo) :
    (s.objectFields? ctx "params").notes ⊆ (ofShape ctx s).notes := by
  intro n hn
  simp [ofShape, hn]

theorem notes_result_subset {f : MergedField} (hf : s.field? "result" = some f) :
    (s.schemaOf ctx f).notes ⊆ (ofShape ctx s).notes := by
  intro n hn
  simp [ofShape, hf, hn]

theorem ofShape_sound (htable : ctx.annotations.Every (·.tags.Sound)) {o : Operation}
    (h : (ofShape ctx s).value = some o) : o.Sound (ofShape ctx s).notes := by
  rw [value_ofShape, Option.map_eq_some_iff] at h
  obtain ⟨name, -, rfl⟩ := h
  refine ⟨⟨_, rfl⟩, fun root hroot => ?_, rfl⟩
  rcases List.mem_cons.mp hroot with rfl | hroot
  · cases hp : (s.objectFields? ctx "params").value with
    | none => exact Schema.accounted_object List.nodup_nil (by simp)
    | some fields =>
      exact (ShapeInfo.accounted_objectFields? htable hp).mono fun _ ha =>
        ha.mono (notes_params_subset ctx s)
  · cases hf : s.field? "result" with
    | none => simp [hf] at hroot
    | some f =>
      have heq : root = (s.schemaOf ctx f).value := by simpa [hf] using hroot
      subst heq
      exact (ShapeInfo.accounted_schemaOf (s := s) htable f).mono fun _ ha =>
        ha.mono (notes_result_subset hf)

end Operation

/-! ## 2. Prompts -/

namespace Prompt

/-- The schemas of a prompt: its arguments, taken together as an object. -/
def roots (p : Prompt) : List Schema := [.object p.arguments]

/-- What holds of a prompt before it is bound. -/
structure Sound (notes : List Note) (p : Prompt) : Prop where
  schemas : ∀ root ∈ p.roots, root.Everywhere (Schema.Accounted notes)
  unbound : p.handler? = none

theorem value_ofShape (ctx : TypeContext) (s : ShapeInfo) : (ofShape ctx s).value =
    (s.requiredText? "name").value.map fun name =>
      ⟨name, (s.description? ctx.annotations).value,
        (s.objectFields? ctx "args").value.getD [],
        (contentOf s (s.text? "template").value (s.flag "dynamic").value).value, none⟩ := rfl

theorem notes_args_subset (ctx : TypeContext) (s : ShapeInfo) :
    (s.objectFields? ctx "args").notes ⊆ (ofShape ctx s).notes := by
  intro n hn
  simp [ofShape, hn]

theorem ofShape_sound (htable : ctx.annotations.Every (·.tags.Sound)) {p : Prompt}
    (h : (ofShape ctx s).value = some p) : p.Sound (ofShape ctx s).notes := by
  rw [value_ofShape, Option.map_eq_some_iff] at h
  obtain ⟨name, -, rfl⟩ := h
  refine ⟨fun root hroot => ?_, rfl⟩
  obtain rfl := List.mem_singleton.mp hroot
  cases hp : (s.objectFields? ctx "args").value with
  | none => exact Schema.accounted_object List.nodup_nil (by simp)
  | some fields =>
    exact (ShapeInfo.accounted_objectFields? htable hp).mono fun _ ha =>
      ha.mono (notes_args_subset ctx s)

end Prompt

/-! ## 3. Resources -/

namespace Resource

/-- What holds of a resource before it is bound. -/
structure Sound (notes : List Note) (r : Resource) : Prop where
  uri : Note.ErrorFree notes → isUri r.uri = true
  dynamic : Note.ErrorFree notes → isTemplateUri r.uri = true ∨ r.subscribable = true →
    r.content = .dynamic
  unbound : r.handler? = none

/-- Unless it is a problem, dynamic is what is said to be. -/
theorem value_contentOf {isDynamic : Bool} (hclean : Note.ErrorFree (contentOf s isDynamic).notes) :
    (contentOf s isDynamic).value = .dynamic ↔ isDynamic = true := by
  unfold contentOf at hclean ⊢
  cases hf : s.field? "data" with
  | none =>
    cases isDynamic with
    | true => simp
    | false =>
      have := hclean ⟨.conflictingContent, s.decl.nameSpan, _⟩
        (by simp only [hf]; exact List.mem_cons_self)
      simp [Diagnostic.isError, Diagnostic.severity, Code.severity] at this
  | some f =>
    cases isDynamic with
    | true =>
      have := hclean ⟨.conflictingContent, s.decl.nameSpan, _⟩
        (by simp only [hf, Noted.notes_bind]; exact List.mem_append_right _ List.mem_cons_self)
      simp [Diagnostic.isError, Diagnostic.severity, Code.severity] at this
    | false => simp

/-- Unless it is a problem, a URI is one, and only a dynamic resource has variables in it. -/
theorem checkUri_sound {uri : String} {isDynamic : Bool}
    (hclean : Note.ErrorFree (checkUri s uri isDynamic).notes) :
    isUri uri = true ∧ (isTemplateUri uri = true → isDynamic = true) := by
  unfold checkUri at hclean
  constructor
  · by_contra hu
    have := hclean ⟨.invalidUri, ((s.field? "uri").map (·.field.span)).getD s.decl.nameSpan, _⟩
      (by
        simp only [hu, Bool.not_false, if_true, Noted.notes_bind]
        exact List.mem_append_left _ List.mem_cons_self)
    simp [Diagnostic.isError, Diagnostic.severity, Code.severity] at this
  · intro ht
    by_contra hd
    have := hclean ⟨.conflictingContent,
      ((s.field? "uri").map (·.field.span)).getD s.decl.nameSpan, _⟩
      (by
        simp only [ht, hd, Bool.not_false, Bool.and_self, if_true]
        split
        · exact List.mem_append_right _ List.mem_cons_self
        · exact List.mem_cons_self)
    simp [Diagnostic.isError, Diagnostic.severity, Code.severity] at this

/-- Whether a shape says that its resource is dynamic. -/
def saysDynamic (s : ShapeInfo) : Bool := (s.flag "dynamic").value || (s.flag "subscribable").value

theorem value_ofShape (ctx : TypeContext) (s : ShapeInfo) : (ofShape ctx s).value =
    (s.requiredText? "uri").value.bind fun uri => (s.requiredText? "name").value.map fun name =>
      ⟨uri, name, (s.text? "mimeType").value.getD (defaultMimeType (contentOf s (saysDynamic s)).value),
        (s.description? ctx.annotations).value, (s.flag "subscribable").value,
        (contentOf s (saysDynamic s)).value, none⟩ := by
  unfold ofShape
  simp only [Noted.value_bind]
  cases (s.requiredText? "uri").value <;> rfl

theorem notes_content_subset (ctx : TypeContext) (s : ShapeInfo) :
    (contentOf s (saysDynamic s)).notes ⊆ (ofShape ctx s).notes := by
  intro n hn
  unfold saysDynamic at hn
  simp [ofShape, hn]

theorem notes_uri_subset {uri : String} (hu : (s.requiredText? "uri").value = some uri) :
    (checkUri s uri (saysDynamic s)).notes ⊆ (ofShape ctx s).notes := by
  intro n hn
  unfold saysDynamic at hn
  simp [ofShape, hu, hn]

theorem ofShape_sound {r : Resource} (h : (ofShape ctx s).value = some r) :
    r.Sound (ofShape ctx s).notes := by
  rw [value_ofShape, Option.bind_eq_some_iff] at h
  obtain ⟨uri, hu, h⟩ := h
  obtain ⟨name, -, rfl⟩ := Option.map_eq_some_iff.mp h
  refine ⟨fun hclean => ?_, fun hclean hd => ?_, rfl⟩
  · exact (checkUri_sound (hclean.mono (notes_uri_subset hu))).1
  · have hcheck := checkUri_sound (hclean.mono (notes_uri_subset hu))
    apply (value_contentOf (hclean.mono (notes_content_subset ctx s))).mpr
    rcases hd with hd | hd
    · exact hcheck.2 hd
    · exact Bool.or_eq_true_iff.mpr (.inr hd)

end Resource

/-! ## 4. Groups -/

namespace Group

theorem value_ofShape (ctx : TypeContext) (s : ShapeInfo) : (ofShape ctx s).value =
    (s.requiredText? "name").value.map fun name =>
      (⟨name, (s.description? ctx.annotations).value, (operationsOf s).value.map (·.1)⟩,
        (operationsOf s).value.map (·.2)) := rfl

/-- A group has one place for each operation that it lists. -/
theorem length_items {found : Group × List Span} (h : (ofShape ctx s).value = some found) :
    found.2.length = found.1.operations.length := by
  rw [value_ofShape, Option.map_eq_some_iff] at h
  obtain ⟨name, -, rfl⟩ := h
  simp

end Group

end ServiceGraph
