import Mathlib.Order.Bounds.Basic
import Mathlib.Order.WellFounded
import ServiceGraph.Proofs.Template

/-!
What a template's search finds, and in which order.

The search sees successive matches only: each is the first one behind the end of the last (`Matched`, which does
not say how a match is found). It still finds every name that stands in a placeholder somewhere in the text, since
no two placeholders overlap, and lists the names by the places of their first placeholders
(`placeholders_spec`). Places count the characters in front.
-/

namespace ServiceGraph

namespace Naming

variable {α : Type} [BEq α]

theorem distinct_append_singleton (xs : List α) (x : α) :
    distinct (xs ++ [x]) = if (distinct xs).contains x then distinct xs else distinct xs ++ [x] := by
  rw [distinct, List.foldl_append]
  rfl

variable [LawfulBEq α]

/-- Different elements stand in the order of their first entries. -/
theorem pairwise_distinct (xs : List α) : (distinct xs).Pairwise fun a b => xs.idxOf a < xs.idxOf b := by
  induction xs using List.reverseRecOn with
  | nil => exact .nil
  | append_singleton xs x ih =>
    have hkept : (distinct xs).Pairwise fun a b => (xs ++ [x]).idxOf a < (xs ++ [x]).idxOf b := by
      refine ih.imp_of_mem fun ha hb hab => ?_
      rwa [List.idxOf_append_of_mem (mem_distinct.mp ha), List.idxOf_append_of_mem (mem_distinct.mp hb)]
    rw [distinct_append_singleton]
    split
    · exact hkept
    · rename_i hnew
      rw [List.contains_iff_mem, mem_distinct] at hnew
      refine List.pairwise_append.mpr ⟨hkept, List.pairwise_singleton _ _, fun a ha b hb => ?_⟩
      obtain rfl := List.mem_singleton.mp hb
      have hold := mem_distinct.mp ha
      rw [List.idxOf_append_of_mem hold, List.idxOf_append_of_notMem hnew]
      exact Nat.lt_of_lt_of_le (List.idxOf_lt_length_of_mem hold) (Nat.le_add_right _ _)

end Naming

namespace Template

variable {name found rest behind s text : List Char} {names : List (List Char)} {c : Char}

/-! ## 1. Successive matches -/

/-- A text does not begin with a placeholder. -/
def Lacks (s : List Char) : Prop := ∀ name, IsName name → ¬ Starts name s

/-- The names of a text's successive matches: each match is the first one in what the last has left. -/
inductive Matched : List Char → List (List Char) → Prop
  | none {s : List Char} (hlacks : ∀ i, Lacks (s.drop i)) : Matched s []
  | next {s name behind : List Char} {names : List (List Char)} (i : Nat) (hlacks : ∀ j < i, Lacks (s.drop j))
      (hname : IsName name) (htakes : Takes name behind (s.drop i)) (hrest : Matched behind names) :
      Matched s (name :: names)

theorem placeholder?_eq_none_iff : placeholder? s = none ↔ Lacks s := by
  constructor
  · intro hnone name hname hstarts
    obtain ⟨rest, hsome⟩ := placeholder?_of_starts hname hstarts
    rw [hnone] at hsome
    cases hsome
  · intro hlacks
    cases hsome : placeholder? s with
    | none => rfl
    | some taken =>
      obtain ⟨hname, htakes⟩ := takes_of_placeholder? hsome
      exact absurd (starts_iff.mpr ⟨_, htakes⟩) (hlacks _ hname)

theorem occurrences_of_takes (hname : IsName name) (h : Takes name behind s) :
    occurrences s = name :: occurrences behind := by
  rw [occurrences]
  split
  · rename_i heq
    rw [placeholder?_of_takes hname h] at heq
    cases heq
    rfl
  · rename_i heq
    rw [placeholder?_of_takes hname h] at heq
    cases heq

theorem occurrences_nil : occurrences [] = [] := by
  rw [occurrences]
  rfl

theorem occurrences_of_lacks (h : Lacks (c :: rest)) : occurrences (c :: rest) = occurrences rest := by
  rw [occurrences]
  split
  · rename_i heq
    rw [placeholder?_eq_none_iff.mpr h] at heq
    cases heq
  · rfl

theorem occurrences_drop {i : Nat} (h : ∀ j < i, Lacks (s.drop j)) : occurrences s = occurrences (s.drop i) := by
  induction i generalizing s with
  | zero => rfl
  | succ i ih =>
    cases s with
    | nil => rfl
    | cons c rest =>
      rw [occurrences_of_lacks (h 0 (Nat.succ_pos i)), List.drop_succ_cons]
      exact ih fun j hj => h (j + 1) (Nat.succ_lt_succ hj)

theorem Matched.cons (hc : Lacks (c :: rest)) (h : Matched rest names) : Matched (c :: rest) names := by
  cases h with
  | none hlacks =>
    refine .none fun i => ?_
    cases i with
    | zero => exact hc
    | succ i => exact hlacks i
  | next i hlacks hname htakes hrest =>
    refine .next (i + 1) (fun j hj => ?_) hname htakes hrest
    cases j with
    | zero => exact hc
    | succ j => exact hlacks j (Nat.lt_of_succ_lt_succ hj)

/-- **The search finds the successive matches.** -/
theorem matched_iff : Matched s names ↔ names = occurrences s := by
  constructor
  · intro h
    induction h with
    | @none s hlacks =>
      rw [occurrences_drop (i := s.length) fun j _ => hlacks j, List.drop_length, occurrences_nil]
    | next i hlacks hname htakes _ ih => rw [occurrences_drop hlacks, occurrences_of_takes hname htakes, ← ih]
  · rintro rfl
    fun_induction occurrences s with
    | case1 s name rest h _ ih =>
      obtain ⟨hname, htakes⟩ := takes_of_placeholder? h
      exact .next 0 (fun j hj => absurd hj (Nat.not_lt_zero j)) hname htakes ih
    | case2 h => exact .none fun i => by rw [List.drop_nil]; exact placeholder?_eq_none_iff.mp h
    | case3 c rest h ih => exact .cons (placeholder?_eq_none_iff.mp h) ih

/-! ## 2. Places -/

/-- A placeholder for a name stands at a place of a text. -/
def StandsAt (text name : List Char) (place : Nat) : Prop := IsName name ∧ Starts name (text.drop place)

theorem uses_iff {text name : String} : Uses text name ↔ ∃ place, StandsAt text.toList name.toList place := by
  constructor
  · rintro ⟨hname, s, hsuffix, hs⟩
    exact ⟨_, hname, List.suffix_iff_eq_drop.mp hsuffix ▸ hs⟩
  · rintro ⟨place, hname, hs⟩
    exact ⟨hname, _, List.drop_suffix place _, hs⟩

theorem Takes.exists_drop (h : Takes name behind s) : ∃ k, 0 < k ∧ k ≤ s.length ∧ behind = s.drop k := by
  obtain ⟨before, after, rfl, -, -⟩ := h
  let front := '\x7b' :: '\x7b' :: (before ++ (name ++ (after ++ ['\x7d', '\x7d'])))
  have hsplit : '\x7b' :: '\x7b' :: (before ++ (name ++ (after ++ '\x7d' :: '\x7d' :: behind))) =
      front ++ behind := by simp [front]
  rw [hsplit]
  exact ⟨front.length, by simp [front], by simp, by rw [List.drop_left]⟩

theorem Matched.exists_place (h : Matched s names) : ∀ name ∈ names, ∃ place, StandsAt s name place := by
  induction h with
  | none => simp
  | @next s found behind names i _ hfound htakes _ ih =>
    intro name hmem
    rcases List.mem_cons.mp hmem with rfl | hmem
    · exact ⟨i, hfound, starts_iff.mpr ⟨_, htakes⟩⟩
    · obtain ⟨place, hname, hs⟩ := ih name hmem
      obtain ⟨k, -, -, rfl⟩ := htakes.exists_drop
      refine ⟨i + k + place, hname, ?_⟩
      rwa [List.drop_drop, List.drop_drop, ← Nat.add_assoc] at hs

/-- In what a match takes stands no placeholder but its own. -/
theorem standsAt_of_lt (h : placeholder? text = some (found, text.drop k)) (hk : k ≤ text.length) {j : Nat}
    (hj : j < k) (hs : StandsAt text name j) : j = 0 ∧ name = found := by
  obtain ⟨hname, hs⟩ := hs
  have hwhole : text.drop j = text := by
    rcases suffix_of_placeholder? hs (List.drop_suffix j text) h with hwhole | hrest
    · exact hwhole
    · have hlength := hrest.length_le
      rw [List.length_drop, List.length_drop] at hlength
      omega
  have hzero : j = 0 := by
    have hlength := congrArg List.length hwhole
    rw [List.length_drop] at hlength
    omega
  subst hzero
  obtain ⟨behind, hbehind⟩ := placeholder?_of_starts hname hs
  rw [List.drop_zero, h] at hbehind
  cases hbehind
  exact ⟨rfl, rfl⟩

/-- A name that is found in front of another one has a placeholder in front of all of the other's. -/
theorem exists_place_in_front (text : List Char) : ∀ {a b : List Char}, a ∈ occurrences text →
    (occurrences text).idxOf a < (occurrences text).idxOf b →
      ∃ i, StandsAt text a i ∧ ∀ j, StandsAt text b j → i < j := by
  fun_induction occurrences text with
  | case1 text found rest h _ ih =>
    -- Only the match's own name stands in front of its end, and it is not `b`, which is found later.
    intro a b ha hab
    obtain ⟨hfound, htakes⟩ := takes_of_placeholder? h
    obtain ⟨k, hpos, hk, rfl⟩ := htakes.exists_drop
    have hb : b ≠ found := by
      rintro rfl
      rw [List.idxOf_cons_self] at hab
      exact absurd hab (Nat.not_lt_zero _)
    have hlater : ∀ j, StandsAt text b j → k ≤ j := by
      intro j hj
      by_contra hlt
      exact hb (standsAt_of_lt h hk (Nat.lt_of_not_le hlt) hj).2
    by_cases hfirst : a = found
    · subst hfirst
      exact ⟨0, ⟨hfound, starts_iff.mpr ⟨_, htakes⟩⟩, fun j hj => Nat.lt_of_lt_of_le hpos (hlater j hj)⟩
    · rw [List.idxOf_cons_ne _ (Ne.symm hfirst), List.idxOf_cons_ne _ (Ne.symm hb)] at hab
      obtain ⟨i, ⟨hname, hs⟩, hfront⟩ := ih ((List.mem_cons.mp ha).resolve_left hfirst) (Nat.lt_of_succ_lt_succ hab)
      refine ⟨k + i, ⟨hname, by rwa [List.drop_drop] at hs⟩, fun j hj => ?_⟩
      obtain ⟨j, rfl⟩ := Nat.exists_eq_add_of_le (hlater j hj)
      have hij := hfront j ⟨hj.1, by rw [List.drop_drop]; exact hj.2⟩
      omega
  | case2 => simp
  | case3 c rest h ih =>
    intro a b ha hab
    obtain ⟨i, hi, hfront⟩ := ih ha hab
    refine ⟨i + 1, hi, fun j hj => ?_⟩
    cases j with
    | zero => exact absurd hj.2 (placeholder?_eq_none_iff.mp h _ hj.1)
    | succ j => exact Nat.succ_lt_succ (hfront j hj)

theorem exists_isLeast_standsAt {place : Nat} (h : StandsAt text name place) :
    ∃ first, IsLeast {i | StandsAt text name i} first := by
  classical
  exact ⟨Nat.find ⟨place, h⟩, Nat.isLeast_find _⟩

/-! ## 3. The names -/

/-- **Placeholders are found exactly.** The names of a text's successive matches are collected, each once. A name is
among them exactly if a placeholder for it stands somewhere in the text, and names are in the order of the
first places of their placeholders. -/
theorem placeholders_spec (text : String) :
    (∀ names, Matched text.toList names →
      placeholders text = (Naming.distinct names).map String.ofList) ∧
    (∃ names, Matched text.toList names) ∧
    (placeholders text).Nodup ∧
    (∀ name, name ∈ placeholders text ↔ ∃ place, StandsAt text.toList name.toList place) ∧
    (placeholders text).Pairwise fun a b => ∃ i j,
      IsLeast {place | StandsAt text.toList a.toList place} i ∧
        IsLeast {place | StandsAt text.toList b.toList place} j ∧ i < j := by
  have hmatched : Matched text.toList (occurrences text.toList) := matched_iff.mpr rfl
  have hmem : ∀ name, name ∈ placeholders text → ∃ place, StandsAt text.toList name.toList place := by
    intro name hname
    obtain ⟨found, hfound, rfl⟩ := List.mem_map.mp hname
    rw [String.toList_ofList]
    exact hmatched.exists_place found (Naming.mem_distinct.mp hfound)
  refine ⟨fun names h => by rw [matched_iff.mp h, placeholders], ⟨_, hmatched⟩,
    (Naming.nodup_distinct _).map fun _ _ => String.ofList_injective,
    fun name => ⟨hmem name, fun h => mem_placeholders_of_uses (uses_iff.mpr h)⟩, ?_⟩
  refine List.pairwise_map.mpr ((Naming.pairwise_distinct _).imp_of_mem fun {a b} ha hb hab => ?_)
  simp only [String.toList_ofList]
  obtain ⟨i, hi, hfront⟩ := exists_place_in_front text.toList (Naming.mem_distinct.mp ha) hab
  obtain ⟨j, hj⟩ := hmatched.exists_place b (Naming.mem_distinct.mp hb)
  obtain ⟨first, hfirst⟩ := exists_isLeast_standsAt hi
  obtain ⟨second, hsecond⟩ := exists_isLeast_standsAt hj
  exact ⟨first, second, hfirst, hsecond, Nat.lt_of_le_of_lt (hfirst.2 hi) (hfront second hsecond.1)⟩

/-- A brace in front of a placeholder, or a placeholder right behind another one, hides nothing. -/
example : placeholders "\x7b\x7b\x7ba\x7d\x7d \x7b\x7bb\x7d\x7d\x7b\x7b\x7b\x7b a \x7d\x7d\x7d\x7d" = ["a", "b"] := by
  cbv

end Template

end ServiceGraph
