import Mathlib.Data.List.Forall2
import Mathlib.Data.Option.Basic

/-!
Lists whose elements correspond one by one, and what is looked up in them.
-/

namespace ServiceGraph

variable {α β : Type} {R : α → β → Prop} {l : List α} {l' : List β}

theorem exists_of_forall₂_left (h : List.Forall₂ R l l') {a : α} (ha : a ∈ l) : ∃ b ∈ l', R a b := by
  induction h with
  | nil => cases ha
  | cons hab _ ih =>
    rcases List.mem_cons.mp ha with rfl | ha
    · exact ⟨_, List.mem_cons_self, hab⟩
    · obtain ⟨b, hb, hR⟩ := ih ha
      exact ⟨b, List.mem_cons_of_mem _ hb, hR⟩

theorem exists_of_forall₂_right (h : List.Forall₂ R l l') {b : β} (hb : b ∈ l') : ∃ a ∈ l, R a b :=
  exists_of_forall₂_left h.flip hb

/-- What corresponds to two lists behind each other is cut where they are. -/
theorem exists_append_of_forall₂ : ∀ {front back : List α} {l' : List β}, List.Forall₂ R (front ++ back) l' →
    ∃ front' back', l' = front' ++ back' ∧ List.Forall₂ R front front' ∧ List.Forall₂ R back back'
  | [], _, l', h => ⟨[], l', rfl, .nil, h⟩
  | _ :: front, _, _, h => by
      obtain _ | ⟨hfirst, hrest⟩ := h
      obtain ⟨front', back', rfl, hfront, hback⟩ := exists_append_of_forall₂ hrest
      exact ⟨_ :: front', back', rfl, .cons hfirst hfront, hback⟩

/-- Corresponding elements are elements of the lists. -/
theorem forall₂_mem (h : List.Forall₂ R l l') :
    List.Forall₂ (fun a b => a ∈ l ∧ b ∈ l' ∧ R a b) l l' := by
  induction h with
  | nil => exact .nil
  | cons hab _ ih =>
    refine .cons ⟨List.mem_cons_self, List.mem_cons_self, hab⟩ (ih.imp fun a b hR => ?_)
    exact ⟨List.mem_cons_of_mem _ hR.1, List.mem_cons_of_mem _ hR.2.1, hR.2.2⟩

theorem map_eq_of_forall₂ {γ : Type} {f : α → γ} {g : β → γ} (hR : ∀ a b, R a b → g b = f a)
    (h : List.Forall₂ R l l') : l'.map g = l.map f := by
  induction h with
  | nil => rfl
  | cons hab _ ih => rw [List.map_cons, List.map_cons, hR _ _ hab, ih]

/-- What corresponds to a list and has one form is a list of that form. -/
theorem exists_map_of_forall₂ {γ : Type} {g : γ → β} {Q : α → γ → Prop} (hR : ∀ a b, R a b → ∃ c, b = g c ∧ Q a c)
    (h : List.Forall₂ R l l') : ∃ cs, l' = cs.map g ∧ List.Forall₂ Q l cs := by
  induction h with
  | nil => exact ⟨[], rfl, .nil⟩
  | cons hab _ ih =>
    obtain ⟨c, rfl, hc⟩ := hR _ _ hab
    obtain ⟨cs, rfl, hcs⟩ := ih
    exact ⟨c :: cs, rfl, .cons hc hcs⟩

theorem filterMap_eq_of_forall₂ {γ : Type} {f : α → Option γ} {g : β → Option γ}
    (hR : ∀ a b, R a b → g b = f a) (h : List.Forall₂ R l l') : l'.filterMap g = l.filterMap f := by
  induction h with
  | nil => rfl
  | cons hab _ ih => rw [List.filterMap_cons, List.filterMap_cons, hR _ _ hab, ih]

/-- Lists of corresponding elements with the same keys hold corresponding elements under a key. -/
theorem rel_find? {p : α → Bool} {q : β → Bool} (hR : ∀ a b, R a b → q b = p a)
    (h : List.Forall₂ R l l') : Option.Rel R (l.find? p) (l'.find? q) := by
  induction h with
  | nil => exact .none
  | @cons a b _ _ hab _ ih =>
    cases hp : p a with
    | true =>
      rw [List.find?_cons_of_pos hp, List.find?_cons_of_pos ((hR a b hab).trans hp)]
      exact .some hab
    | false =>
      rw [List.find?_cons_of_neg (by simp [hp]), List.find?_cons_of_neg (by simp [hR a b hab, hp])]
      exact ih

theorem exists_of_rel_some {o : Option α} {o' : Option β} (h : Option.Rel R o o') {a : α} (ha : o = some a) :
    ∃ b, o' = some b ∧ R a b := by
  cases h with
  | some hab => exact ⟨_, rfl, Option.some_inj.mp ha ▸ hab⟩
  | none => cases ha

theorem eq_none_of_rel {o : Option α} {o' : Option β} (h : Option.Rel R o o') (ho : o = none) :
    o' = none := by
  cases h with
  | some => cases ho
  | none => rfl

theorem isSome_eq_of_rel {o : Option α} {o' : Option β} (h : Option.Rel R o o') :
    o'.isSome = o.isSome := by
  cases h <;> rfl

end ServiceGraph
