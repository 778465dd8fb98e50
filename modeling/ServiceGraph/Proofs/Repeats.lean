import Mathlib.Data.Finset.Card

/-!
Repeated entries of a list.

An entry is a repetition if one in front of it has the same key (`repeats`), and otherwise the first of its key
(`firsts`). The first ones have all keys, each once, so there are as many repetitions as entries without a key of
their own (`length_repeats`).
-/

namespace ServiceGraph

section

variable {α κ : Type}

/-! ## 1. What stands in front -/

/-- The entries of a list, each with those in front of it; `front` stands in front of the whole list. -/
def inFront (front xs : List α) : List (List α × α) := xs.mapIdx fun i x => (front ++ xs.take i, x)

theorem inFront_nil (front : List α) : inFront front [] = [] := rfl

theorem inFront_cons (front : List α) (x : α) (xs : List α) :
    inFront front (x :: xs) = (front, x) :: inFront (front ++ [x]) xs := by
  simp [inFront, List.mapIdx_cons]

variable [DecidableEq κ] (key : α → κ)

/-- The entries with the key of one in front. -/
def repeatsAfter (front xs : List α) : List α :=
  (inFront front xs).filterMap fun e => if key e.2 ∈ e.1.map key then some e.2 else none

/-- The entries whose key none in front has. -/
def firstsAfter (front xs : List α) : List α :=
  (inFront front xs).filterMap fun e => if key e.2 ∈ e.1.map key then none else some e.2

/-- The entries of a list that repeat the key of an earlier one. -/
def repeats (xs : List α) : List α := repeatsAfter key [] xs

/-- The first entry of each key. -/
def firsts (xs : List α) : List α := firstsAfter key [] xs

variable {key} {front xs : List α} {x : α}

/-! ## 2. One entry more -/

theorem repeatsAfter_cons_of_mem (h : key x ∈ front.map key) :
    repeatsAfter key front (x :: xs) = x :: repeatsAfter key (front ++ [x]) xs := by
  simp only [repeatsAfter, inFront_cons, List.filterMap_cons, if_pos h]

theorem repeatsAfter_cons_of_not_mem (h : key x ∉ front.map key) :
    repeatsAfter key front (x :: xs) = repeatsAfter key (front ++ [x]) xs := by
  simp only [repeatsAfter, inFront_cons, List.filterMap_cons, if_neg h]

theorem firstsAfter_cons_of_mem (h : key x ∈ front.map key) :
    firstsAfter key front (x :: xs) = firstsAfter key (front ++ [x]) xs := by
  simp only [firstsAfter, inFront_cons, List.filterMap_cons, if_pos h]

theorem firstsAfter_cons_of_not_mem (h : key x ∉ front.map key) :
    firstsAfter key front (x :: xs) = x :: firstsAfter key (front ++ [x]) xs := by
  simp only [firstsAfter, inFront_cons, List.filterMap_cons, if_neg h]

/-! ## 3. Whole lists -/

/-- Every entry is either a repetition or a first one. -/
theorem length_repeatsAfter_add (xs front : List α) :
    (repeatsAfter key front xs).length + (firstsAfter key front xs).length = xs.length := by
  induction xs generalizing front with
  | nil => rfl
  | cons x xs ih =>
    have hrest := @ih (front ++ [x])
    by_cases h : key x ∈ front.map key
    · rw [repeatsAfter_cons_of_mem h, firstsAfter_cons_of_mem h, List.length_cons, List.length_cons]
      omega
    · rw [repeatsAfter_cons_of_not_mem h, firstsAfter_cons_of_not_mem h, List.length_cons, List.length_cons]
      omega

/-- The keys of the first entries are those that do not stand in front, each once. -/
theorem keys_firstsAfter (xs front : List α) :
    ((firstsAfter key front xs).map key).Nodup ∧
      ∀ k, k ∈ (firstsAfter key front xs).map key ↔ k ∈ xs.map key ∧ k ∉ front.map key := by
  induction xs generalizing front with
  | nil => simp [firstsAfter, inFront_nil]
  | cons x xs ih =>
    obtain ⟨hnodup, hmem⟩ := @ih (front ++ [x])
    have hfront : ∀ k, k ∈ (front ++ [x]).map key ↔ k ∈ front.map key ∨ k = key x := by
      intro k
      simp
    by_cases h : key x ∈ front.map key
    · rw [firstsAfter_cons_of_mem h]
      refine ⟨hnodup, fun k => ?_⟩
      rw [hmem, hfront, List.map_cons, List.mem_cons]
      constructor
      · rintro ⟨hk, hnew⟩
        exact ⟨.inr hk, fun hold => hnew (.inl hold)⟩
      · rintro ⟨rfl | hk, hnew⟩
        · exact absurd h hnew
        · exact ⟨hk, fun hold => hold.elim hnew fun heq => hnew (heq ▸ h)⟩
    · rw [firstsAfter_cons_of_not_mem h, List.map_cons]
      refine ⟨List.nodup_cons.mpr ⟨fun hold => ?_, hnodup⟩, fun k => ?_⟩
      · exact ((hmem _).mp hold).2 ((hfront _).mpr (.inr rfl))
      · rw [List.mem_cons, hmem, hfront, List.map_cons, List.mem_cons]
        constructor
        · rintro (rfl | ⟨hk, hnew⟩)
          · exact ⟨.inl rfl, h⟩
          · exact ⟨.inr hk, fun hold => hnew (.inl hold)⟩
        · rintro ⟨rfl | hk, hnew⟩
          · exact .inl rfl
          · by_cases heq : k = key x
            · exact .inl heq
            · exact .inr ⟨hk, fun hold => hold.elim hnew heq⟩

theorem nodup_firsts (xs : List α) : ((firsts key xs).map key).Nodup := (keys_firstsAfter xs []).1

theorem mem_firsts {k : κ} (xs : List α) : k ∈ (firsts key xs).map key ↔ k ∈ xs.map key := by
  rw [firsts, (keys_firstsAfter xs []).2]
  simp

/-- **There are as many repetitions as entries less different keys.** -/
theorem length_repeats (xs : List α) :
    (repeats key xs).length = xs.length - (xs.map key).toFinset.card := by
  have hkeys : (xs.map key).toFinset = ((firsts key xs).map key).toFinset := by
    ext k
    rw [List.mem_toFinset, List.mem_toFinset, mem_firsts]
  have hcard : (xs.map key).toFinset.card = (firsts key xs).length := by
    rw [hkeys, List.toFinset_card_of_nodup (nodup_firsts xs), List.length_map]
  have htotal : (repeats key xs).length + (firsts key xs).length = xs.length := length_repeatsAfter_add xs []
  omega

end

end ServiceGraph
