import ServiceGraph.Proofs.Binding.Lookup
import ServiceGraph.Proofs.Syntax.Places

/-!
Where the implementations in a scope stand: at the binding of their name, or at a member of the default
export. Following names leads to values that are bound somewhere in the file.
-/

namespace ServiceGraph

open Syntax

variable {ok : Span → Prop}

/-- All places that a scope may point to satisfy a condition. -/
structure Scope.Sited (ok : Span → Prop) (s : Scope) : Prop where
  bindings : ∀ b ∈ s.bindings, ok b.span
  members : ∀ m ∈ s.members, ok m.span

namespace Scope

/-- Where following ends at a value, the value is bound. -/
theorem exists_binding_of_follow {bindings : List Binding} {value : Value} :
    ∀ {steps : Nat} {name : String}, (follow bindings steps name).2 = some value →
      ∃ b ∈ bindings, b.value = value
  | 0, _, h => by simp [follow] at h
  | steps + 1, name, h => by
      rw [follow] at h
      split at h
      · cases h
      · rename_i b hb
        have hmem : b ∈ bindings := List.mem_of_find?_eq_some hb
        split at h
        · split at h
          · exact ⟨b, hmem, Option.some.inj h⟩
          · exact exists_binding_of_follow h
        · exact ⟨b, hmem, Option.some.inj h⟩

theorem ok_of_mem_membersOf {value : Value} (h : ∀ s ∈ value.places, ok s) :
    ∀ m ∈ membersOf value, ok m.span := by
  intro m hm
  cases value with
  | classBody members => exact h _ (by rw [Value.places]; exact Value.span_mem_placesOfMembers hm)
  | object members => exact h _ (by rw [Value.places]; exact Value.span_mem_placesOfMembers hm)
  | _ => simp [membersOf] at hm

variable {f : SourceFile}

/-- The scope of a file points into the file. -/
theorem sited_ofFile (h : ∀ s ∈ f.places, ok s) : (ofFile f).Sited ok := by
  have hbinding : ∀ b ∈ f.bindings, ∀ s ∈ b.span :: b.value.places, ok s := fun b hb s hs =>
    h s (List.mem_flatMap.mpr ⟨.binding b, SourceFile.binding_mem_items hb, hs⟩)
  refine ⟨fun b hb => hbinding b hb b.span List.mem_cons_self, ?_⟩
  change ∀ m ∈ defaultMembers f.bindings f, ok m.span
  unfold defaultMembers
  split
  · simp
  · rename_i d hd
    split
    · rename_i name _
      intro m hm
      cases hvalue : (resolve f.bindings name).2 with
      | none => simp [hvalue] at hm
      | some value =>
        have hfollow : (follow f.bindings longestChain name).2 = some value := hvalue
        obtain ⟨b, hb, rfl⟩ := exists_binding_of_follow hfollow
        refine ok_of_mem_membersOf (fun s hs => hbinding b hb s (List.mem_cons_of_mem _ hs)) m ?_
        simpa [hvalue] using hm
    · refine ok_of_mem_membersOf fun s hs => h s (List.mem_flatMap.mpr ⟨.defaultExport d, ?_, ?_⟩)
      · exact SourceFile.defaultExport_mem_items hd
      · exact List.mem_cons_of_mem _ hs

theorem ok_of_mem_lookup {scope : Scope} (h : scope.Sited ok) {name : String} :
    ∀ i ∈ scope.lookup name, ok i.candidate.span := by
  intro i hi
  rcases List.mem_append.mp hi with hi | hi
  · obtain ⟨b, hb, rfl⟩ := Option.map_eq_some_iff.mp (Option.mem_toList.mp hi)
    exact h.bindings b (List.mem_of_find?_eq_some hb)
  · obtain ⟨m, hm, rfl⟩ := Option.map_eq_some_iff.mp (Option.mem_toList.mp hi)
    exact h.members m (List.mem_of_find?_eq_some hm)

end Scope

namespace Resolution

/-- An implementation that ignores its arguments stands in the scope. -/
theorem ok_of_ignoring {scope : Scope} (h : scope.Sited ok) {name : String} {takesParameters : Bool}
    {handler : Handler} {c : Candidate}
    (hbound : ofName scope name takesParameters = .bound handler (some c)) : ok c.span := by
  unfold ofName at hbound
  dsimp only at hbound
  split at hbound
  · cases hbound
  · rename_i single hsingle
    have hmem : single ∈ (Naming.variants name).flatMap scope.lookup := by
      exact mem_of_mem_differing (by simp [hsingle])
    obtain ⟨tried, -, hfound⟩ := List.mem_flatMap.mp hmem
    have hspan := Scope.ok_of_mem_lookup h single hfound
    have hc : c = single.candidate := by
      unfold ofImplementation at hbound
      dsimp only at hbound
      split at hbound
      · split at hbound
        · cases hbound
        · simp only [bound.injEq] at hbound
          have hignoring := hbound.2
          split at hignoring
          · exact (Option.some.inj hignoring).symm
          · cases hignoring
      · cases hbound
      · cases hbound
      · cases hbound
      · cases hbound
    exact hc ▸ hspan
  · cases hbound

end Resolution

end ServiceGraph
