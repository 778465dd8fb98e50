import ServiceGraph.Finding

/-!
What becomes of notes.

* A note of a part is a note of the whole: `mem_notes_bind` splits the notes of two steps.
* `Note.diagnostics` and `Note.findings` show things once, but lose nothing: a problem and a finding
  are shown as they are (`problem_mem_diagnostics`, `finding_mem_findings`), and for a warning
  that is left out another one at the same place says the same (`exists_repeat_of_warning`).
-/

namespace ServiceGraph

namespace Noted

variable {α β : Type}

attribute [simp] value_pure notes_pure value_bind notes_bind

@[simp] theorem value_map (f : α → β) (x : Noted α) : (f <$> x).value = f x.value := rfl

@[simp] theorem notes_map (f : α → β) (x : Noted α) : (f <$> x).notes = x.notes := by
  change x.notes ++ [] = x.notes
  rw [List.append_nil]

@[simp] theorem notes_warn (code : Code) (span : Span) (message : String) :
    (warn code span message).notes = [.warning ⟨code, span, message⟩] := rfl

@[simp] theorem notes_report (code : Code) (span : Span) (message : String) :
    (report code span message).notes = [.problem ⟨code, span, message⟩] := rfl

@[simp] theorem notes_find (kind : FindingKind) (span : Span) (subject : String) :
    (find kind span subject).notes = [.finding ⟨kind, span, subject⟩] := rfl

theorem mem_notes_bind {n : Note} {x : Noted α} {f : α → Noted β} :
    n ∈ (x >>= f).notes ↔ n ∈ x.notes ∨ n ∈ (f x.value).notes := by
  rw [notes_bind, List.mem_append]

theorem notes_forM (f : α → Noted Unit) (xs : List α) :
    (xs.forM f).notes = xs.flatMap fun x => (f x).notes := by
  induction xs with
  | nil => rfl
  | cons x rest ih =>
    rw [List.flatMap_cons, ← ih]
    rfl

theorem mem_notes_forM {n : Note} {f : α → Noted Unit} {xs : List α} :
    n ∈ (xs.forM f).notes ↔ ∃ x ∈ xs, n ∈ (f x).notes := by
  rw [notes_forM, List.mem_flatMap]

end Noted

namespace Note

theorem problem_mem_diagnosticsAfter {d : Diagnostic} :
    ∀ (notes : List Note) (shown : List Diagnostic), .problem d ∈ notes →
      d ∈ diagnosticsAfter shown notes
  | .warning w :: rest, shown, h => by
      have hrest : Note.problem d ∈ rest := by simpa using h
      unfold diagnosticsAfter
      split
      · exact problem_mem_diagnosticsAfter rest shown hrest
      · exact List.mem_cons_of_mem _ (problem_mem_diagnosticsAfter rest _ hrest)
  | .problem p :: rest, shown, h => by
      unfold diagnosticsAfter
      rcases List.mem_cons.mp h with h | h
      · cases h
        exact List.mem_cons_self
      · exact List.mem_cons_of_mem _ (problem_mem_diagnosticsAfter rest shown h)
  | .finding f :: rest, shown, h => by
      unfold diagnosticsAfter
      exact problem_mem_diagnosticsAfter rest shown (by simpa using h)

/-- Every problem is shown. -/
theorem problem_mem_diagnostics {d : Diagnostic} {notes : List Note} (h : .problem d ∈ notes) :
    d ∈ diagnostics notes :=
  problem_mem_diagnosticsAfter notes [] h

theorem exists_repeat_after {d : Diagnostic} :
    ∀ (notes : List Note) (shown : List Diagnostic), .warning d ∈ notes →
      (∃ w ∈ shown, repeats d w) ∨
        ∃ w ∈ diagnosticsAfter shown notes, .warning w ∈ notes ∧ repeats d w
  | .warning w :: rest, shown, h => by
      unfold diagnosticsAfter
      rcases List.mem_cons.mp h with h | h
      · cases h
        split
        · rename_i hany
          obtain ⟨w, hw, hr⟩ := List.any_eq_true.mp hany
          exact .inl ⟨w, hw, hr⟩
        · exact .inr ⟨d, List.mem_cons_self, List.mem_cons_self, by simp [repeats]⟩
      · split
        · rcases exists_repeat_after rest shown h with h | ⟨v, hv, hn, hr⟩
          · exact .inl h
          · exact .inr ⟨v, hv, List.mem_cons_of_mem _ hn, hr⟩
        · rcases exists_repeat_after rest (w :: shown) h with ⟨v, hv, hr⟩ | ⟨v, hv, hn, hr⟩
          · rcases List.mem_cons.mp hv with rfl | hv
            · exact .inr ⟨v, List.mem_cons_self, List.mem_cons_self, hr⟩
            · exact .inl ⟨v, hv, hr⟩
          · exact .inr ⟨v, List.mem_cons_of_mem _ hv, List.mem_cons_of_mem _ hn, hr⟩
  | .problem p :: rest, shown, h => by
      unfold diagnosticsAfter
      rcases exists_repeat_after rest shown (by simpa using h) with h | ⟨v, hv, hn, hr⟩
      · exact .inl h
      · exact .inr ⟨v, List.mem_cons_of_mem _ hv, List.mem_cons_of_mem _ hn, hr⟩
  | .finding f :: rest, shown, h => by
      unfold diagnosticsAfter
      rcases exists_repeat_after rest shown (by simpa using h) with h | ⟨v, hv, hn, hr⟩
      · exact .inl h
      · exact .inr ⟨v, hv, List.mem_cons_of_mem _ hn, hr⟩

/-- For every warning one at the same place with the same message is shown. -/
theorem exists_repeat_of_warning {d : Diagnostic} {notes : List Note} (h : .warning d ∈ notes) :
    ∃ w ∈ diagnostics notes, .warning w ∈ notes ∧ w.message = d.message := by
  rcases exists_repeat_after notes [] h with ⟨w, hw, _⟩ | ⟨w, hw, hn, hr⟩
  · simp at hw
  · simp only [repeats, Bool.and_eq_true, beq_iff_eq] at hr
    exact ⟨w, hw, hn, hr.2.symm⟩

theorem finding_mem_findingsAfter {f : Finding} :
    ∀ (notes : List Note) (kept : List Finding), .finding f ∈ notes →
      f ∈ kept ∨ f ∈ findingsAfter kept notes
  | .finding g :: rest, kept, h => by
      unfold findingsAfter
      rcases List.mem_cons.mp h with h | h
      · cases h
        split
        · rename_i hc
          exact .inl (List.contains_iff_mem.mp hc)
        · exact .inr List.mem_cons_self
      · split
        · exact finding_mem_findingsAfter rest kept h
        · rcases finding_mem_findingsAfter rest (g :: kept) h with h | h
          · rcases List.mem_cons.mp h with rfl | h
            · exact .inr List.mem_cons_self
            · exact .inl h
          · exact .inr (List.mem_cons_of_mem _ h)
  | .warning w :: rest, kept, h => by
      unfold findingsAfter
      exact finding_mem_findingsAfter rest kept (by simpa using h)
  | .problem p :: rest, kept, h => by
      unfold findingsAfter
      exact finding_mem_findingsAfter rest kept (by simpa using h)

/-- Every finding is kept. -/
theorem finding_mem_findings {f : Finding} {notes : List Note} (h : .finding f ∈ notes) :
    f ∈ findings notes := by
  rcases finding_mem_findingsAfter notes [] h with h | h
  · simp at h
  · exact h

/-- What is shown was noted. -/
theorem note_of_mem_diagnosticsAfter {d : Diagnostic} :
    ∀ (notes : List Note) (shown : List Diagnostic), d ∈ diagnosticsAfter shown notes →
      .warning d ∈ notes ∨ .problem d ∈ notes
  | .warning w :: rest, shown, h => by
      unfold diagnosticsAfter at h
      split at h
      · exact (note_of_mem_diagnosticsAfter rest shown h).imp (List.mem_cons_of_mem _)
          (List.mem_cons_of_mem _)
      · rcases List.mem_cons.mp h with rfl | h
        · exact .inl List.mem_cons_self
        · exact (note_of_mem_diagnosticsAfter rest _ h).imp (List.mem_cons_of_mem _)
            (List.mem_cons_of_mem _)
  | .problem p :: rest, shown, h => by
      unfold diagnosticsAfter at h
      rcases List.mem_cons.mp h with rfl | h
      · exact .inr List.mem_cons_self
      · exact (note_of_mem_diagnosticsAfter rest shown h).imp (List.mem_cons_of_mem _)
          (List.mem_cons_of_mem _)
  | .finding f :: rest, shown, h => by
      unfold diagnosticsAfter at h
      exact (note_of_mem_diagnosticsAfter rest shown h).imp (List.mem_cons_of_mem _)
        (List.mem_cons_of_mem _)

theorem finding_of_mem_findingsAfter {f : Finding} :
    ∀ (notes : List Note) (kept : List Finding), f ∈ findingsAfter kept notes → .finding f ∈ notes
  | .finding g :: rest, kept, h => by
      unfold findingsAfter at h
      split at h
      · exact List.mem_cons_of_mem _ (finding_of_mem_findingsAfter rest kept h)
      · rcases List.mem_cons.mp h with rfl | h
        · exact List.mem_cons_self
        · exact List.mem_cons_of_mem _ (finding_of_mem_findingsAfter rest _ h)
  | .warning w :: rest, kept, h => by
      unfold findingsAfter at h
      exact List.mem_cons_of_mem _ (finding_of_mem_findingsAfter rest kept h)
  | .problem p :: rest, kept, h => by
      unfold findingsAfter at h
      exact List.mem_cons_of_mem _ (finding_of_mem_findingsAfter rest kept h)

end Note

end ServiceGraph
