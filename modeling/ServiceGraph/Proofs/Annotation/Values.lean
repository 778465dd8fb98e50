import ServiceGraph.Annotation.Table
import ServiceGraph.Proofs.Decimal.Comparable

/-!
What the values of tags are like, whatever is written in the comments.

The bounds of a `TagSet` that is read from a comment can be compared, and its list of allowed values is
neither empty nor repeats itself. One tag line keeps this (`TagSet.sound_applyTag`), so all
lines of a comment do, and so does every entry of a table (`Annotation.sound_ofShapes`).
-/

namespace ServiceGraph

/-! ## 1. Lists without repetitions -/

namespace Naming

variable {α : Type} [BEq α] [LawfulBEq α]

theorem mem_foldl_distinct {x : α} : ∀ (xs found : List α),
    x ∈ xs.foldl (fun found x => if found.contains x then found else found ++ [x]) found ↔
      x ∈ xs ∨ x ∈ found
  | [], found => by simp
  | y :: rest, found => by
      rw [List.foldl_cons, mem_foldl_distinct rest, List.mem_cons]
      split
      · rename_i hc
        have hy : y ∈ found := List.contains_iff_mem.mp hc
        constructor
        · rintro (h | h)
          · exact .inl (.inr h)
          · exact .inr h
        · rintro ((rfl | h) | h)
          · exact .inr hy
          · exact .inl h
          · exact .inr h
      · rw [List.mem_append, List.mem_singleton, or_comm (a := x ∈ found), ← or_assoc,
          or_comm (a := x ∈ rest)]

@[simp] theorem mem_distinct {x : α} {xs : List α} : x ∈ distinct xs ↔ x ∈ xs := by
  unfold distinct
  rw [mem_foldl_distinct]
  simp

theorem nodup_foldl_distinct : ∀ (xs found : List α), found.Nodup →
    (xs.foldl (fun found x => if found.contains x then found else found ++ [x]) found).Nodup
  | [], _, h => h
  | y :: rest, found, h => by
      rw [List.foldl_cons]
      apply nodup_foldl_distinct rest
      split
      · exact h
      · rename_i hc
        rw [List.nodup_append]
        refine ⟨h, by simp, fun a ha b hb hab => hc ?_⟩
        rw [List.mem_singleton.mp hb] at hab
        exact List.contains_iff_mem.mpr (hab ▸ ha)

theorem nodup_distinct (xs : List α) : (distinct xs).Nodup :=
  nodup_foldl_distinct xs [] List.nodup_nil

theorem foldl_distinct_of_nodup : ∀ {xs found : List α}, (found ++ xs).Nodup →
    xs.foldl (fun found x => if found.contains x then found else found ++ [x]) found = found ++ xs
  | [], found, _ => (List.append_nil found).symm
  | y :: rest, found, h => by
      have hy : y ∉ found := fun hmem => (List.nodup_append.mp h).2.2 y hmem y List.mem_cons_self rfl
      rw [List.foldl_cons, if_neg (by simpa using hy), foldl_distinct_of_nodup (by simpa using h)]
      simp

/-- Values that are different all stay. -/
theorem distinct_of_nodup {xs : List α} (h : xs.Nodup) : distinct xs = xs :=
  foldl_distinct_of_nodup (by simpa using h)

theorem distinct_ne_nil {xs : List α} (h : xs ≠ []) : distinct xs ≠ [] := by
  obtain ⟨x, hx⟩ := List.exists_mem_of_ne_nil xs h
  exact List.ne_nil_of_mem (mem_distinct.mpr hx)

end Naming

/-! ## 2. Tags -/

/-- Values that tags can have. -/
structure TagSet.Sound (tags : TagSet) : Prop where
  minimum : ∀ t ∈ tags.minimum?, Decimal.Comparable t.value
  maximum : ∀ t ∈ tags.maximum?, Decimal.Comparable t.value
  values : ∀ t ∈ tags.enumValues?, t.value ≠ [] ∧ t.value.Nodup

namespace TagSet

open Annotation

theorem sound_empty : TagSet.empty.Sound := ⟨by simp [empty], by simp [empty], by simp [empty]⟩

/-- One tag line, whatever its name and value. -/
theorem sound_applyTag {tags : TagSet} (h : tags.Sound) (name value : List Char) (span : Span) :
    (applyTag tags name value span).1.Sound := by
  unfold applyTag
  dsimp only
  split
  · split
    · rename_i x hx
      exact ⟨by simpa using number?_comparable hx, h.maximum, h.values⟩
    · exact h
  · split
    · rename_i x hx
      exact ⟨h.minimum, by simpa using number?_comparable hx, h.values⟩
    · exact h
  · split
    · exact ⟨h.minimum, h.maximum, h.values⟩
    · exact h
  · split
    · exact ⟨h.minimum, h.maximum, h.values⟩
    · exact h
  · split
    · exact h
    · split
      · exact ⟨h.minimum, h.maximum, h.values⟩
      · exact h
  · split
    · exact h
    · exact ⟨h.minimum, h.maximum, h.values⟩
  · split
    · exact h
    · rename_i values hvalues
      refine ⟨h.minimum, h.maximum, ?_⟩
      intro t ht
      cases ht
      exact ⟨hvalues, Naming.nodup_distinct _⟩
  · split
    · exact ⟨h.minimum, h.maximum, h.values⟩
    · exact ⟨h.minimum, h.maximum, h.values⟩
    · exact ⟨h.minimum, h.maximum, h.values⟩
    · exact h
  · split
    · exact h
    · exact ⟨h.minimum, h.maximum, h.values⟩
  · exact ⟨h.minimum, h.maximum, h.values⟩
  · exact h

theorem sound_applyTags : ∀ (lines : List ContentLine) {tags : TagSet}, tags.Sound →
    (applyTags tags lines).1.Sound
  | [], _, h => h
  | line :: rest, tags, h => by
      unfold applyTags
      split
      · exact sound_applyTags rest (sound_applyTag h _ _ _)
      · exact sound_applyTags rest h

end TagSet

/-! ## 3. Tables -/

namespace AnnotationTable

/-- What holds of all entries of a table. -/
def Every (P : Annotation → Prop) (t : AnnotationTable) : Prop := ∀ e ∈ t.entries, P e.2

variable {P : Annotation → Prop}

theorem Every.insert {t : AnnotationTable} (h : t.Every P) (shape path : String) {a : Annotation}
    (ha : P a) : (t.insert shape path a).Every P := by
  intro e he
  rcases List.mem_cons.mp he with rfl | he
  · exact ha
  · exact h e (List.mem_filter.mp he).1

theorem Every.get? {t : AnnotationTable} (h : t.Every P) {shape path : String} {a : Annotation}
    (ha : t.get? shape path = some a) : P a := by
  obtain ⟨l₁, l₂, heq, -⟩ := List.lookup_eq_some_iff.mp ha
  exact h ((shape, path), a) (by simp [heq])

end AnnotationTable

namespace Annotation

open Syntax

/-- What holds of the comments that were entered, and of what was found in them. -/
structure Entered (P : Annotation → Prop) (Q : Diagnostic → Prop)
    (state : AnnotationTable × List Diagnostic) : Prop where
  entries : state.1.Every P
  problems : ∀ d ∈ state.2, Q d

section

variable {P : Annotation → Prop} {Q : Diagnostic → Prop}

theorem entered_enter {state : AnnotationTable × List Diagnostic} (h : Entered P Q state)
    (shape : String) {entry : String × Doc} (hP : P (ofDoc entry.2).1)
    (hQ : ∀ d ∈ (ofDoc entry.2).2, Q d) : Entered P Q (enter shape state entry) := by
  refine ⟨h.entries.insert shape entry.1 hP, fun d hd => ?_⟩
  rcases List.mem_append.mp hd with hd | hd
  · exact h.problems d hd
  · exact hQ d hd

theorem entered_foldl_enter (shape : String) :
    ∀ (docs : List (String × Doc)) (state : AnnotationTable × List Diagnostic),
      (∀ e ∈ docs, P (ofDoc e.2).1) → (∀ e ∈ docs, ∀ d ∈ (ofDoc e.2).2, Q d) → Entered P Q state →
      Entered P Q (docs.foldl (enter shape) state)
  | [], _, _, _, h => h
  | entry :: rest, state, hP, hQ, h => by
      rw [List.foldl_cons]
      exact entered_foldl_enter shape rest _ (fun e he => hP e (List.mem_cons_of_mem _ he))
        (fun e he => hQ e (List.mem_cons_of_mem _ he))
        (entered_enter h shape (hP entry List.mem_cons_self) (hQ entry List.mem_cons_self))

/-- All entries of a table are read from the comments of the shapes. -/
theorem entered_ofShapes {shapes : List ShapeDecl}
    (hP : ∀ d ∈ shapes, ∀ e ∈ docsOfShape d, P (ofDoc e.2).1)
    (hQ : ∀ d ∈ shapes, ∀ e ∈ docsOfShape d, ∀ problem ∈ (ofDoc e.2).2, Q problem) :
    Entered P Q (ofShapes shapes) := by
  suffices h : ∀ (ds : List ShapeDecl) (state : AnnotationTable × List Diagnostic), ds ⊆ shapes →
      Entered P Q state →
        Entered P Q (ds.foldl (fun state d => (docsOfShape d).foldl (enter d.name) state) state) from
    h shapes _ (fun _ h => h) ⟨by simp [AnnotationTable.empty, AnnotationTable.Every], by simp⟩
  intro ds
  induction ds with
  | nil => exact fun _ _ h => h
  | cons d rest ih =>
    intro state hsub h
    have hd := hsub List.mem_cons_self
    exact ih _ (fun _ hmem => hsub (List.mem_cons_of_mem _ hmem))
      (entered_foldl_enter d.name (docsOfShape d) state (hP d hd) (hQ d hd) h)

end

theorem sound_ofDoc (doc : Doc) : (ofDoc doc).1.tags.Sound :=
  TagSet.sound_applyTags (contentLines doc) TagSet.sound_empty

/-- The tags of every entry have values that tags can have. -/
theorem sound_ofShapes (shapes : List ShapeDecl) :
    (ofShapes shapes).1.Every (·.tags.Sound) :=
  (entered_ofShapes (fun _ _ e _ => sound_ofDoc e.2)
    (fun _ _ _ _ _ _ => (trivial : (fun _ => True) _))).entries

end Annotation

end ServiceGraph
