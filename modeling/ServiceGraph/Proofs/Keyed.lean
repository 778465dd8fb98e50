import Mathlib

/-!
Lists whose elements have different keys: what is found under a key does not depend on the order.
-/

namespace ServiceGraph.Keyed

variable {α β : Type} {key : α → String} {l l' : List α}

/-- What is found under a key is the element that has it. -/
theorem find?_eq_some_iff (hn : (l.map key).Nodup) {name : String} {a : α} :
    l.find? (key · == name) = some a ↔ a ∈ l ∧ key a = name := by
  constructor
  · intro h
    exact ⟨List.mem_of_find?_eq_some h, by simpa using List.find?_some h⟩
  · rintro ⟨ha, rfl⟩
    obtain ⟨b, hb⟩ : ∃ b, l.find? (key · == key a) = some b := by
      rw [← Option.isSome_iff_exists, List.find?_isSome]
      exact ⟨a, ha, by simp⟩
    have hkey : key b = key a := by simpa using List.find?_some hb
    rw [hb, List.inj_on_of_nodup_map hn (List.mem_of_find?_eq_some hb) ha hkey]

theorem nodup_of_perm (hp : l.Perm l') (hn : (l.map key).Nodup) : (l'.map key).Nodup :=
  (hp.map key).nodup_iff.mp hn

/-- What is found under a key does not depend on the order. -/
theorem find?_of_perm (hp : l.Perm l') (hn : (l.map key).Nodup) (name : String) :
    l.find? (key · == name) = l'.find? (key · == name) := by
  apply Option.ext
  intro a
  rw [find?_eq_some_iff hn, find?_eq_some_iff (nodup_of_perm hp hn), hp.mem_iff]

/-- If there is only one thing to find, the order does not matter. -/
theorem findSome?_of_perm {f : α → Option β} (hp : l.Perm l')
    (hone : ∀ a ∈ l, ∀ b ∈ l, ∀ x ∈ f a, ∀ y ∈ f b, x = y) :
    l.findSome? f = l'.findSome? f := by
  cases h : l.findSome? f with
  | none =>
    rw [List.findSome?_eq_none_iff] at h
    symm
    rw [List.findSome?_eq_none_iff]
    exact fun a ha => h a (hp.mem_iff.mpr ha)
  | some x =>
    obtain ⟨a, ha, hx⟩ := List.exists_of_findSome?_eq_some h
    cases h' : l'.findSome? f with
    | none =>
      rw [List.findSome?_eq_none_iff] at h'
      rw [h' a (hp.mem_iff.mp ha)] at hx
      cases hx
    | some y =>
      obtain ⟨b, hb, hy⟩ := List.exists_of_findSome?_eq_some h'
      rw [hone a ha b (hp.mem_iff.mpr hb) x hx y hy]

end ServiceGraph.Keyed
