import Mathlib.Data.List.Nodup
import ServiceGraph.Conflict
import ServiceGraph.Proofs.Template

/-!
What a graph without conflicts is like: each check that reports no error rules out what it looks for.

* `nodup_of_duplicates`: no name is there twice.
* `not_both_of_flags`: no operation is both read-only and destructive.
* `known_of_members`: a group lists only operations that there are.
* `isArgument_of_template`: a placeholder anywhere in a template is an argument.
* `isError_ofFinding`, `isBound_of_outcome`: what a finding or an outcome has to be to be no error.
-/

namespace ServiceGraph.Conflict

/-- None of some diagnostics is an error. -/
def Clean (ds : List Diagnostic) : Prop := ∀ d ∈ ds, d.isError = false

theorem clean_append {ds es : List Diagnostic} : Clean (ds ++ es) ↔ Clean ds ∧ Clean es := by
  simp [Clean, or_imp, forall_and]

theorem clean_cons {d : Diagnostic} {ds : List Diagnostic} :
    Clean (d :: ds) ↔ d.isError = false ∧ Clean ds := by
  simp [Clean]

/-- The code of what is no error. -/
theorem severity_of_isError {code : Code} {span : Span} {message : String}
    (h : Diagnostic.isError ⟨code, span, message⟩ = false) : code.severity ≠ .error := by
  simpa [Diagnostic.isError, Diagnostic.severity] using h

theorem clean_flatMap {α : Type} {f : α → List Diagnostic} {xs : List α} :
    Clean (xs.flatMap f) ↔ ∀ x ∈ xs, Clean (f x) := by
  simp only [Clean, List.mem_flatMap]
  exact ⟨fun h x hx d hd => h d ⟨x, hx, hd⟩, fun h d ⟨x, hx, hd⟩ => h x hx d hd⟩

/-! ## 1. Names -/

theorem nodup_of_duplicatesAfter {what : String} :
    ∀ (entries : List (String × Span)) (seen : List (String × Nat)),
      Clean (duplicatesAfter seen what entries) →
        (entries.map (·.1)).Nodup ∧ ∀ e ∈ entries, seen.lookup e.1 = none
  | [], _, _ => by simp
  | (name, span) :: rest, seen, h => by
      cases hseen : seen.lookup name with
      | some line =>
        simp only [duplicatesAfter, hseen, clean_cons] at h
        exact absurd rfl (severity_of_isError h.1)
      | none =>
        simp only [duplicatesAfter, hseen] at h
        obtain ⟨hnodup, hnew⟩ := nodup_of_duplicatesAfter rest _ h
        have hne : ∀ e ∈ rest, e.1 ≠ name := by
          intro e he heq
          have hlookup := hnew e he
          rw [heq, List.lookup_cons_self] at hlookup
          cases hlookup
        refine ⟨List.nodup_cons.mpr ⟨fun hmem => ?_, hnodup⟩, fun e he => ?_⟩
        · obtain ⟨e, he, heq⟩ := List.mem_map.mp hmem
          exact hne e he heq
        · rcases List.mem_cons.mp he with rfl | he
          · exact hseen
          · have hlookup := hnew e he
            rwa [List.lookup_cons, beq_false_of_ne (hne e he)] at hlookup

/-- Names of which none is reported are different. -/
theorem nodup_of_duplicates {α : Type} {what field : String} {name : α → String}
    {all : List (Located α)} (h : Clean (duplicatesAfter [] what (named name field all))) :
    ((all.map (·.value)).map name).Nodup := by
  have hnodup := (nodup_of_duplicatesAfter _ _ h).1
  rw [named, List.map_map] at hnodup
  rw [List.map_map]
  exact hnodup

/-! ## 2. Flags and groups -/

theorem not_both_of_flags {o : Located Operation} (h : Clean (flags o)) :
    ¬ (o.value.flags.readOnly = true ∧ o.value.flags.destructive = true) := by
  rintro ⟨hread, hdestroy⟩
  simp only [flags, hread, hdestroy, Bool.and_self, if_true, clean_cons] at h
  exact absurd rfl (severity_of_isError h.1)

/-- An entry that was there before is only warned about: it was looked up then. -/
theorem known_of_membersAfter {known : List String} {group : String} :
    ∀ (entries : List (String × Span)) (seen : List String), (∀ name ∈ seen, name ∈ known) →
      Clean (membersAfter known seen group entries) → ∀ e ∈ entries, e.1 ∈ known
  | [], _, _, _ => by simp
  | (name, span) :: rest, seen, hseen, h => by
      unfold membersAfter at h
      split at h
      · rename_i hlisted
        have hname : name ∈ known := hseen name (List.contains_iff_mem.mp hlisted)
        have hrest := known_of_membersAfter rest seen hseen (clean_cons.mp h).2
        simpa [hname] using hrest
      · split at h
        · rename_i hknown
          have hname : name ∈ known := List.contains_iff_mem.mp hknown
          have hrest := known_of_membersAfter rest (name :: seen) (by simpa [hname] using hseen) h
          simpa [hname] using hrest
        · exact absurd rfl (severity_of_isError (clean_cons.mp h).1)

theorem map_fst_entries (g : Located Group) : (entries g).map (·.1) = g.value.operations := by
  unfold entries
  apply List.ext_getElem?
  intro i
  rw [List.getElem?_map, List.getElem?_mapIdx, Option.map_map]
  cases g.value.operations[i]? <;> rfl

/-- Without an error, a group lists only what is known. -/
theorem known_of_members {known : List String} {g : Located Group} (h : Clean (members known g)) :
    ∀ name ∈ g.value.operations, name ∈ known := by
  intro name hname
  rw [← map_fst_entries] at hname
  obtain ⟨e, he, rfl⟩ := List.mem_map.mp hname
  exact known_of_membersAfter _ [] (by simp) h e he

/-! ## 3. Templates -/

/-- Without an error, whatever a template uses is an argument. -/
theorem isArgument_of_template {p : Located Prompt} (h : Clean (template p)) {text name : String}
    (htext : p.value.content = .template text) (huses : Template.Uses text name) :
    ∃ a ∈ p.value.arguments, a.name = name := by
  have hmem := Template.mem_placeholders_of_uses huses
  have hempty : text.isEmpty = false := by
    by_contra hempty
    rw [Bool.not_eq_false, String.isEmpty_iff] at hempty
    exact huses.ne_empty hempty
  unfold template at h
  simp only [htext, hempty] at h
  by_contra hnone
  have hundeclared : name ∈ (Template.placeholders text).filter
      fun u => !p.value.arguments.any (·.name == u) := by
    rw [List.mem_filter]
    refine ⟨hmem, ?_⟩
    simpa using hnone
  exact absurd rfl
    (severity_of_isError (h _ (List.mem_append_left _ (List.mem_map_of_mem hundeclared))))

/-! ## 4. Findings and outcomes -/

theorem isError_contradictory {low high subject : String} {span : Span} :
    (ofFinding ⟨.contradictory low high, span, subject⟩).isError = true := rfl

theorem isError_defaultViolation {reason subject : String} {span : Span} :
    (ofFinding ⟨.defaultViolation reason, span, subject⟩).isError = true := rfl

/-- An outcome that is no error has a handler. -/
theorem isBound_of_outcome {o : Outcome} (h : ∀ d ∈ ofOutcome? o, d.isError = false) :
    o.isBound = true := by
  obtain ⟨kind, name, span, resolution⟩ := o
  cases resolution with
  | bound handler ignoring => rfl
  | missing tried => exact absurd rfl (severity_of_isError (h _ rfl))
  | ambiguous candidates => exact absurd rfl (severity_of_isError (h _ rfl))
  | notCallable c what => exact absurd rfl (severity_of_isError (h _ rfl))
  | tooManyParameters c required => exact absurd rfl (severity_of_isError (h _ rfl))

end ServiceGraph.Conflict
