import Mathlib.Tactic.Common
import ServiceGraph.Proofs.Annotation.Values
import ServiceGraph.Proofs.Noted
import ServiceGraph.Proofs.Schema.Nodes
import ServiceGraph.Schema.OfType

/-!
What a schema that is read from a type is like, and what is noted about it.

`Schema.Accounted notes n` says of a node that it is well formed (constraints stand only where they
belong, an enumeration has values and does not repeat them, an object's fields have different names), and that
whatever else may be wrong with it is among the notes: a reason for having no schema, bounds without a value
between them, a default that does not fit.

* Tags keep this, with the notes that they add (`Schema.accounted_withTags`).
* Reading a type establishes it for every node (`TypeSchema.accounted_ofType`), by induction along
  the reader: a type is smaller than the type around it, and a name leaves fewer names to expand.
-/

namespace ServiceGraph

/-! ## 1. The property of one node -/

namespace Constraints

/-- The bounds leave a value between them. -/
structure Ordered (c : Constraints) : Prop where
  numbers : ∀ low ∈ c.minimum?, ∀ high ∈ c.maximum?, low ≤ high
  lengths : ∀ low ∈ c.minLength?, ∀ high ∈ c.maxLength?, low ≤ high

/-- The bounds can be compared. -/
structure Bounded (c : Constraints) : Prop where
  minimum : ∀ x ∈ c.minimum?, Decimal.Comparable x
  maximum : ∀ x ∈ c.maximum?, Decimal.Comparable x

theorem ordered_none : Constraints.none.Ordered := ⟨by simp [none], by simp [none]⟩

theorem bounded_none : Constraints.none.Bounded := ⟨by simp [none], by simp [none]⟩

end Constraints

namespace Schema

/-- Bounds stand on numbers only, lengths on texts and lists, patterns and formats on texts. -/
structure Placed (n : Schema) : Prop where
  bounds : n.isNumber = false → n.constraints.minimum? = none ∧ n.constraints.maximum? = none
  lengths : n.isSized = false → n.constraints.minLength? = none ∧ n.constraints.maxLength? = none
  texts : n.isText = false → n.constraints.pattern? = none ∧ n.constraints.format? = none

end Schema

/-- The message for something that has no schema. -/
def Note.noSchema (reason : String) : String := s!"{reason} cannot be translated to a schema"

namespace Schema

/-- A default that does not fit the final schema of its field is among the notes. -/
def DefaultNoted (notes : List Note) (f : SchemaField) : Prop :=
  ∀ value ∈ f.default?, ∀ reason ∈ f.schema.objection? value,
    ∃ span subject, .finding ⟨.defaultViolation reason, span, subject⟩ ∈ notes

/-- A node that is well formed, and all of whose flaws are noted. -/
structure Accounted (notes : List Note) (n : Schema) : Prop where
  placed : n.Placed
  bounded : n.constraints.Bounded
  values : ∀ values, n = .enumeration values → values ≠ [] ∧ values.Nodup
  names : ∀ fields, n = .object fields → (fields.map (·.name)).Nodup
  warned : ∀ reason, n = .unsupported reason →
    ∃ span, .warning ⟨.unsupportedConstruct, span, Note.noSchema reason⟩ ∈ notes
  ordered : n.constraints.Ordered ∨
    ∃ low high span subject, .finding ⟨.contradictory low high, span, subject⟩ ∈ notes
  defaults : ∀ fields, n = .object fields → ∀ f ∈ fields, DefaultNoted notes f

/-- A field whose schema is accounted for, and whose default is. -/
structure FieldAccounted (notes : List Note) (f : SchemaField) : Prop where
  schema : f.schema.Everywhere (Accounted notes)
  default : DefaultNoted notes f

theorem DefaultNoted.mono {notes more : List Note} {f : SchemaField} (h : DefaultNoted notes f)
    (hsub : notes ⊆ more) : DefaultNoted more f := by
  intro value hv reason hr
  obtain ⟨span, subject, hn⟩ := h value hv reason hr
  exact ⟨span, subject, hsub hn⟩

theorem Accounted.mono {notes more : List Note} {n : Schema} (h : Accounted notes n)
    (hsub : notes ⊆ more) : Accounted more n where
  placed := h.placed
  bounded := h.bounded
  values := h.values
  names := h.names
  warned reason hr := (h.warned reason hr).imp fun _ hn => hsub hn
  ordered := h.ordered.imp id fun ⟨low, high, span, subject, hn⟩ => ⟨low, high, span, subject, hsub hn⟩
  defaults fields hf f hmem := (h.defaults fields hf f hmem).mono hsub

theorem FieldAccounted.mono {notes more : List Note} {f : SchemaField} (h : FieldAccounted notes f)
    (hsub : notes ⊆ more) : FieldAccounted more f :=
  ⟨h.schema.mono fun _ hn => hn.mono hsub, h.default.mono hsub⟩

/-! ## 2. Schemas without flaws -/

section

variable {notes : List Note}

theorem accounted_plain (kind : LeafKind) : Everywhere (Accounted notes) (.plain kind) := by
  apply everywhere_leaf
  refine ⟨⟨?_, ?_, ?_⟩, Constraints.bounded_none, ?_, ?_, ?_, .inl Constraints.ordered_none, ?_⟩ <;>
    simp [constraints, Constraints.none]

/-- A text with a format. -/
theorem accounted_formatted (format : String) :
    Everywhere (Accounted notes)
      (.leaf .string { Constraints.none with format? := some format }) := by
  apply everywhere_leaf
  refine ⟨⟨?_, ?_, ?_⟩, ⟨?_, ?_⟩, ?_, ?_, ?_, .inl ⟨?_, ?_⟩, ?_⟩ <;>
    simp [constraints, Constraints.none, isText]

theorem accounted_enumeration {values : List String} (hne : values ≠ []) (hnd : values.Nodup) :
    Everywhere (Accounted notes) (.enumeration values) := by
  apply everywhere_enumeration
  refine ⟨⟨?_, ?_, ?_⟩, Constraints.bounded_none, ?_, ?_, ?_, .inl Constraints.ordered_none, ?_⟩
  case refine_4 =>
    intro values' h
    cases h
    exact ⟨hne, hnd⟩
  all_goals simp [constraints, Constraints.none]

theorem accounted_listOf {items : Schema} (h : items.Everywhere (Accounted notes)) :
    (listOf items).Everywhere (Accounted notes) := by
  apply everywhere_list _ h
  refine ⟨⟨?_, ?_, ?_⟩, Constraints.bounded_none, ?_, ?_, ?_, .inl Constraints.ordered_none, ?_⟩ <;>
    simp [constraints, Constraints.none]

theorem accounted_unsupported {reason : String} (span : Span)
    (h : .warning ⟨.unsupportedConstruct, span, Note.noSchema reason⟩ ∈ notes) :
    Everywhere (Accounted notes) (.unsupported reason) := by
  apply everywhere_unsupported
  refine ⟨⟨?_, ?_, ?_⟩, Constraints.bounded_none, ?_, ?_, ?_, .inl Constraints.ordered_none, ?_⟩
  case refine_6 =>
    intro reason' hr
    cases hr
    exact ⟨span, h⟩
  all_goals simp [constraints, Constraints.none]

/-- An object whose fields are accounted for. -/
theorem accounted_object {fields : List SchemaField} (hnd : (fields.map (·.name)).Nodup)
    (h : ∀ f ∈ fields, FieldAccounted notes f) :
    Everywhere (Accounted notes) (.object fields) := by
  apply everywhere_object _ fun f hf => (h f hf).schema
  refine ⟨⟨?_, ?_, ?_⟩, Constraints.bounded_none, ?_, ?_, ?_, .inl Constraints.ordered_none, ?_⟩
  case refine_5 =>
    intro fields' hf
    cases hf
    exact hnd
  case refine_7 =>
    intro fields' hf f hmem
    cases hf
    exact (h f hmem).default
  all_goals simp [constraints, Constraints.none]

/-- The object made from fields that are accounted for, whatever their names. -/
theorem accounted_ofFields {fields : List SchemaField} (h : ∀ f ∈ fields, FieldAccounted notes f) :
    (ofFields fields).Everywhere (Accounted notes) := by
  apply accounted_object (nodup_foldl_insertField fields [] List.nodup_nil)
  intro f hf
  rcases mem_foldl_insertField fields [] hf with hf | hf
  · exact h f hf
  · simp at hf

end

/-! ## 3. Tags -/

theorem appliedTo_of_not_belongs {α : Type} (tag? : Option (Tagged α)) {c? : Option α}
    (hc : c? = none) : Tagged.appliedTo tag? false c? = none := by
  cases tag? <;> simp [Tagged.appliedTo, hc]

theorem mem_appliedTo {α : Type} {tag? : Option (Tagged α)} {belongs : Bool} {c? : Option α} {x : α}
    (h : x ∈ Tagged.appliedTo tag? belongs c?) : (∃ tag ∈ tag?, tag.value = x) ∨ x ∈ c? := by
  cases tag? with
  | none => exact .inr h
  | some tag =>
    cases belongs with
    | false => exact .inr h
    | true => exact .inl ⟨tag, rfl, Option.some.inj h⟩

theorem bounded_constrained {tags : TagSet} (ht : tags.Sound) {s : Schema}
    (hs : s.constraints.Bounded) : (tags.constrained s).Bounded := by
  constructor
  · intro x hx
    rcases mem_appliedTo hx with ⟨tag, htag, rfl⟩ | hx
    · exact ht.minimum tag htag
    · exact hs.minimum x hx
  · intro x hx
    rcases mem_appliedTo hx with ⟨tag, htag, rfl⟩ | hx
    · exact ht.maximum tag htag
    · exact hs.maximum x hx

/-- Bounds that leave no value are found, unless none of their tags is there. -/
theorem contradiction_ne_nil {α : Type} (names : String × String) (exceeds : α → α → Bool)
    {low? high? : Option α} {low high : α} {lowTag? highTag? : Option (Tagged α)}
    (hlow : low ∈ low?) (hhigh : high ∈ high?) (hex : exceeds low high = true)
    (htag : lowTag? ≠ none ∨ highTag? ≠ none) :
    ∃ span, (names, span) ∈
      TagSet.contradiction low? high? exceeds (TagSet.boundSpan? lowTag? highTag?) names := by
  cases hlow
  cases hhigh
  have hspan : ∃ span, TagSet.boundSpan? lowTag? highTag? = some span := by
    cases highTag? with
    | some tag => exact ⟨tag.span, rfl⟩
    | none =>
      cases lowTag? with
      | some tag => exact ⟨tag.span, rfl⟩
      | none => simp at htag
  obtain ⟨span, hspan⟩ := hspan
  exact ⟨span, by simp [TagSet.contradiction, hspan, hex]⟩

/-- After the tags, bounds are in order, or a contradiction is found, or they were out of order
before. -/
theorem ordered_constrained {tags : TagSet} (ht : tags.Sound) {s : Schema}
    (hs : s.constraints.Bounded) :
    (tags.constrained s).Ordered ∨ tags.contradictions (tags.constrained s) ≠ [] ∨
      ¬ s.constraints.Ordered := by
  by_cases hordered : s.constraints.Ordered
  swap
  · exact .inr (.inr hordered)
  by_cases hnil : tags.contradictions (tags.constrained s) = []
  swap
  · exact .inr (.inl hnil)
  have hb := bounded_constrained ht hs
  simp only [TagSet.contradictions, List.append_eq_nil_iff] at hnil
  refine .inl ⟨fun low hlow high hhigh => ?_, fun low hlow high hhigh => ?_⟩
  · by_cases htag : tags.minimum? ≠ none ∨ tags.maximum? ≠ none
    · by_contra hle
      have hlt : high < low := by
        by_contra hlt
        exact hle (Decimal.le_of_not_lt (hb.minimum low hlow) (hb.maximum high hhigh) hlt)
      obtain ⟨span, hmem⟩ := contradiction_ne_nil ("min", "max")
        (fun low high => decide (high < low)) hlow hhigh (by simp [hlt]) htag
      rw [hnil.1] at hmem
      simp at hmem
    · simp only [ne_eq, not_or, not_not] at htag
      refine hordered.numbers low ?_ high ?_
      · simpa [TagSet.constrained, htag.1, Tagged.appliedTo] using hlow
      · simpa [TagSet.constrained, htag.2, Tagged.appliedTo] using hhigh
  · by_cases htag : tags.minLength? ≠ none ∨ tags.maxLength? ≠ none
    · by_contra hle
      obtain ⟨span, hmem⟩ := contradiction_ne_nil ("minLength", "maxLength")
        (fun low high => decide (high < low)) hlow hhigh (by simp; omega) htag
      rw [hnil.2] at hmem
      simp at hmem
    · simp only [ne_eq, not_or, not_not] at htag
      refine hordered.lengths low ?_ high ?_
      · simpa [TagSet.constrained, htag.1, Tagged.appliedTo] using hlow
      · simpa [TagSet.constrained, htag.2, Tagged.appliedTo] using hhigh

theorem placed_constrained (tags : TagSet) {s : Schema} (hs : s.Placed) :
    (s.withConstraints (tags.constrained s)).Placed := by
  cases s with
  | leaf kind c =>
    refine ⟨fun h => ?_, fun h => ?_, fun h => ?_⟩
    · have hn : (leaf kind c).isNumber = false := h
      have hc := hs.bounds hn
      simp only [withConstraints, constraints, TagSet.constrained, hn]
      exact ⟨appliedTo_of_not_belongs _ hc.1, appliedTo_of_not_belongs _ hc.2⟩
    · have hn : (leaf kind c).isSized = false := by cases kind <;> first | rfl | exact h
      have hc := hs.lengths hn
      simp only [withConstraints, constraints, TagSet.constrained, hn]
      exact ⟨appliedTo_of_not_belongs _ hc.1, appliedTo_of_not_belongs _ hc.2⟩
    · have hn : (leaf kind c).isText = false := by cases kind <;> first | rfl | exact h
      have hc := hs.texts hn
      simp only [withConstraints, constraints, TagSet.constrained, hn]
      exact ⟨appliedTo_of_not_belongs _ hc.1, appliedTo_of_not_belongs _ hc.2⟩
  | list items c =>
    have hb := hs.bounds rfl
    have ht := hs.texts rfl
    exact ⟨fun _ => ⟨appliedTo_of_not_belongs _ hb.1, appliedTo_of_not_belongs _ hb.2⟩,
      fun h => by simp [withConstraints, isSized] at h,
      fun _ => ⟨appliedTo_of_not_belongs _ ht.1, appliedTo_of_not_belongs _ ht.2⟩⟩
  | enumeration values => exact hs
  | object fields => exact hs
  | unsupported reason => exact hs

/-- Other constraints at the root of a schema. -/
theorem accounted_withConstraints {notes : List Note} {s : Schema} {c : Constraints}
    (hs : s.Everywhere (Accounted notes)) (hplaced : (s.withConstraints c).Placed)
    (hbounded : c.Bounded)
    (hordered : c.Ordered ∨
      ∃ low high span subject, .finding ⟨.contradictory low high, span, subject⟩ ∈ notes) :
    (s.withConstraints c).Everywhere (Accounted notes) := by
  cases s with
  | leaf kind d =>
    apply everywhere_leaf
    exact ⟨hplaced, hbounded, by simp, by simp, by simp, hordered, by simp⟩
  | list items d =>
    apply everywhere_list _ hs.items
    exact ⟨hplaced, hbounded, by simp, by simp, by simp, hordered, by simp⟩
  | enumeration values => exact hs
  | object fields => exact hs
  | unsupported reason => exact hs

theorem value_withBounds (tags : TagSet) (subject : String) (s : Schema) :
    (s.withBounds tags subject).value = s.withConstraints (tags.constrained s) := by
  cases s <;> rfl

/-- A contradiction is noted. -/
theorem mem_notes_withBounds {tags : TagSet} (subject : String) {s : Schema}
    (h : tags.contradictions (tags.constrained s) ≠ []) :
    ∃ low high span subject', .finding ⟨.contradictory low high, span, subject'⟩ ∈
      (s.withBounds tags subject).notes := by
  obtain ⟨⟨⟨low, high⟩, span⟩, hmem⟩ := List.exists_mem_of_ne_nil _ h
  refine ⟨low, high, span, subject, ?_⟩
  have hfind : ∀ notes : List Note, .finding ⟨.contradictory low high, span, subject⟩ ∈
      notes ++ (((tags.contradictions (tags.constrained s)).forM fun c =>
        Noted.find (.contradictory c.1.1 c.1.2) c.2 subject).notes ++ []) := by
    intro notes
    rw [List.append_nil, List.mem_append, Noted.mem_notes_forM]
    exact .inr ⟨_, hmem, by simp⟩
  cases s with
  | unsupported reason =>
    have hnone : tags.constrained (.unsupported reason) = Constraints.none := by
      cases tags with
      | mk a b c d e f =>
        cases a <;> cases b <;> cases c <;> cases d <;> cases e <;> cases f <;> rfl
    rw [hnone] at hmem
    simp [TagSet.contradictions, TagSet.contradiction, Constraints.none] at hmem
  | leaf kind c => exact hfind _
  | enumeration values => exact hfind _
  | list items c => exact hfind _
  | object fields => exact hfind _

theorem accounted_withBounds {notes : List Note} {tags : TagSet} (ht : tags.Sound)
    (subject : String) {s : Schema} (hs : s.Everywhere (Accounted notes)) :
    (s.withBounds tags subject).value.Everywhere
      (Accounted (notes ++ (s.withBounds tags subject).notes)) := by
  have hmore : s.Everywhere (Accounted (notes ++ (s.withBounds tags subject).notes)) :=
    hs.mono fun _ hn => hn.mono (List.subset_append_left _ _)
  rw [value_withBounds]
  apply accounted_withConstraints hmore (placed_constrained tags hs.self.placed)
    (bounded_constrained ht hs.self.bounded)
  rcases ordered_constrained ht hs.self.bounded with h | h | h
  · exact .inl h
  · obtain ⟨low, high, span, subject', hmem⟩ := mem_notes_withBounds subject h
    exact .inr ⟨low, high, span, subject', List.mem_append_right _ hmem⟩
  · exact .inr ((hmore.self.ordered.resolve_left h))

theorem accounted_withValues {notes : List Note} {tag : Tagged (List String)}
    (htag : tag.value ≠ [] ∧ tag.value.Nodup) (subject : String) {s : Schema}
    (hs : s.Everywhere (Accounted notes)) :
    (s.withValues tag subject).value.Everywhere
      (Accounted (notes ++ (s.withValues tag subject).notes)) := by
  have hmore : ∀ more, s.Everywhere (Accounted (notes ++ more)) := fun more =>
    hs.mono fun _ hn => hn.mono (List.subset_append_left _ _)
  have hvalues : ∀ more, (Schema.enumeration tag.value).Everywhere (Accounted (notes ++ more)) :=
    fun _ => accounted_enumeration htag.1 htag.2
  unfold withValues
  split
  · exact hvalues _
  · split
    · exact hvalues _
    · exact hmore _
  · exact hmore _
  · exact hmore _

/-- Tags keep a schema accounted for, with the notes that they add. -/
theorem accounted_withTags {notes : List Note} {tags : TagSet} (ht : tags.Sound) (subject : String)
    {s : Schema} (hs : s.Everywhere (Accounted notes)) :
    (s.withTags tags subject).value.Everywhere
      (Accounted (notes ++ (s.withTags tags subject).notes)) := by
  unfold withTags
  cases hv : tags.enumValues? with
  | none => exact accounted_withBounds ht subject hs
  | some tag =>
    have hvalues := accounted_withValues (ht.values tag hv) subject hs
    have hbounds := accounted_withBounds ht subject hvalues
    rw [List.append_assoc] at hbounds
    exact hbounds

end Schema

end ServiceGraph
