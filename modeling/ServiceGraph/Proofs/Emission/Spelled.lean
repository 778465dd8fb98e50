import ServiceGraph.Proofs.Emission.Writable

/-!
Values that types spell out can be spelled again.

The members of an object that is read from a type are sorted by their keys, each of which occurs once, so sorting
them again changes nothing (`Json.ofMembers_insertAll`). For the rest it takes texts that can be quoted and numbers
that are read back (`Syntax.TypeExpr.spells_of_json?`).
-/

namespace ServiceGraph

open Syntax Text

namespace Json

/-! ## 1. Sorted members -/

/-- Members in the order of their keys, each of which occurs once. -/
def Sorted (members : List (String × Json)) : Prop := members.Pairwise fun m n => m.1 < n.1

variable {key : String} {value : Json} {m : String × Json}

theorem mem_insertMember : ∀ {members : List (String × Json)}, m ∈ insertMember key value members →
    m = (key, value) ∨ m ∈ members
  | [], h => .inl (List.mem_singleton.mp h)
  | (k, v) :: rest, h => by
      unfold insertMember at h
      split at h
      · exact List.mem_cons.mp h
      · split at h
        · exact (List.mem_cons.mp h).imp id (List.mem_cons_of_mem _)
        · rcases List.mem_cons.mp h with rfl | h
          · exact .inr List.mem_cons_self
          · exact (mem_insertMember h).imp id (List.mem_cons_of_mem _)

theorem sorted_insertMember : ∀ {members : List (String × Json)}, Sorted members →
    Sorted (insertMember key value members)
  | [], _ => List.pairwise_singleton _ _
  | (k, v) :: rest, h => by
      obtain ⟨hfirst, hrest⟩ := List.pairwise_cons.mp h
      unfold insertMember
      split
      · rename_i hlt
        refine List.pairwise_cons.mpr ⟨fun m hm => ?_, h⟩
        rcases List.mem_cons.mp hm with rfl | hm
        · exact hlt
        · exact lt_trans hlt (hfirst m hm)
      · split
        · rename_i heq
          exact List.pairwise_cons.mpr ⟨fun m hm => heq ▸ hfirst m hm, hrest⟩
        · rename_i hlt hne
          have hgt : k < key := (lt_trichotomy key k).resolve_left hlt |>.resolve_left hne
          refine List.pairwise_cons.mpr ⟨fun m hm => ?_, sorted_insertMember hrest⟩
          rcases mem_insertMember hm with rfl | hm
          · exact hgt
          · exact hfirst m hm

theorem insertMember_of_greater : ∀ {members : List (String × Json)}, (∀ m ∈ members, m.1 < key) →
    insertMember key value members = members ++ [(key, value)]
  | [], _ => rfl
  | (k, v) :: rest, h => by
      have hlt : k < key := h _ List.mem_cons_self
      rw [insertMember, if_neg (lt_asymm hlt), if_neg (ne_of_gt hlt),
        insertMember_of_greater fun m hm => h m (List.mem_cons_of_mem _ hm), List.cons_append]

/-- What is put into a list member by member, in order. -/
abbrev insertAll (members sorted : List (String × Json)) : List (String × Json) :=
  members.foldl (fun sorted m => insertMember m.1 m.2 sorted) sorted

theorem mem_insertAll : ∀ (members : List (String × Json)) {sorted : List (String × Json)},
    m ∈ insertAll members sorted → m ∈ members ∨ m ∈ sorted
  | [], _, h => .inr h
  | _ :: rest, _, h => by
      rcases mem_insertAll rest h with h | h
      · exact .inl (List.mem_cons_of_mem _ h)
      · rcases mem_insertMember h with rfl | h
        · exact .inl List.mem_cons_self
        · exact .inr h

theorem sorted_insertAll : ∀ (members : List (String × Json)) {sorted : List (String × Json)}, Sorted sorted →
    Sorted (insertAll members sorted)
  | [], _, h => h
  | _ :: rest, _, h => sorted_insertAll rest (sorted_insertMember h)

theorem insertAll_of_sorted : ∀ {members sorted : List (String × Json)}, Sorted (sorted ++ members) →
    insertAll members sorted = sorted ++ members
  | [], sorted, _ => (List.append_nil sorted).symm
  | m :: rest, sorted, h => by
      have hgreater : ∀ n ∈ sorted, n.1 < m.1 := fun n hn =>
        (List.pairwise_append.mp h).2.2 n hn m List.mem_cons_self
      rw [insertAll, List.foldl_cons, insertMember_of_greater hgreater]
      have hsorted : Sorted ((sorted ++ [m]) ++ rest) := by simpa using h
      have hrest := insertAll_of_sorted hsorted
      simpa using hrest

/-- Sorting twice changes nothing more. -/
theorem ofMembers_insertAll (members : List (String × Json)) :
    ofMembers (insertAll members []) = .object (insertAll members []) := by
  have hsorted : Sorted ([] ++ insertAll members []) := sorted_insertAll members List.Pairwise.nil
  exact congrArg Json.object (insertAll_of_sorted hsorted)

/-! ## 2. Parts of values -/

/-- One of the values that another one is made of, itself included. -/
inductive IsPart (p : Json) : Json → Prop
  | self : IsPart p p
  | item {items : List Json} {x : Json} : x ∈ items → IsPart p x → IsPart p (.array items)
  | member {members : List (String × Json)} {m : String × Json} :
      m ∈ members → IsPart p m.2 → IsPart p (.object members)

/-- A property of all parts of a value. -/
def Everywhere (P : Json → Prop) (v : Json) : Prop := ∀ p, IsPart p v → P p

/-- A value whose texts can be quoted, if it is one, or else its keys. -/
structure Quotable (v : Json) : Prop where
  text : ∀ s, v = .string s → IsQuotable s
  keys : ∀ members, v = .object members → ∀ m ∈ members, IsQuotable m.1

/-- A value that is read back from its text, if it is a number. -/
def NumberReadBack (v : Json) : Prop := ∀ n, v = .number n → TypeExpr.jsonNumber? n.text = some (.number n)

theorem spellableItems_of_forall : ∀ {items : List Json}, (∀ x ∈ items, x.Spellable) → SpellableItems items
  | [], _ => trivial
  | _ :: _, h => ⟨h _ List.mem_cons_self, spellableItems_of_forall fun x hx => h x (List.mem_cons_of_mem _ hx)⟩

theorem spellableMembers_of_forall : ∀ {members : List (String × Json)},
    (∀ m ∈ members, IsQuotable m.1 ∧ m.2.Spellable) → SpellableMembers members
  | [], _ => trivial
  | (_, _) :: _, h =>
    have hfirst := h _ List.mem_cons_self
    ⟨hfirst.1, hfirst.2, spellableMembers_of_forall fun m hm => h m (List.mem_cons_of_mem _ hm)⟩

end Json

namespace Syntax.TypeExpr

/-- A value can be spelled if its texts can be quoted and its numbers are read back. -/
def Spells (v : Json) : Prop := v.Everywhere (fun p => p.Quotable ∧ p.NumberReadBack) → v.Spellable

theorem spells_ofMembers {members : List (String × Json)} (h : ∀ m ∈ members, Spells m.2) :
    Spells (Json.ofMembers members) := by
  intro hparts
  refine ⟨Json.ofMembers_insertAll members, Json.spellableMembers_of_forall fun m hm => ?_⟩
  have hmem : m ∈ members := (Json.mem_insertAll _ hm).resolve_right (by simp)
  exact ⟨(hparts _ .self).1.keys _ rfl m hm, h m hmem fun p hp => hparts p (.member hm hp)⟩

mutual

/-- **A value that a type spells out can be spelled again**, provided that its texts can be quoted and its numbers are
read back. -/
theorem spells_of_json? (t : TypeExpr) {v : Json} (h : json? t = some v) : Spells v := by
  cases t with
  | literal span value =>
    cases value with
    | string s =>
      obtain rfl := Option.some.inj h
      exact fun hparts => (hparts _ .self).1.text s rfl
    | number text =>
      rw [json?] at h
      have hnumber : ∃ n, v = .number n := by
        unfold jsonNumber? at h
        split at h
        · exact ⟨_, (Option.some.inj h).symm⟩
        · cases h
      obtain ⟨n, rfl⟩ := hnumber
      exact fun hparts => (hparts _ .self).2 n rfl
    | bool b =>
      obtain rfl := Option.some.inj h
      exact fun _ => trivial
    | null =>
      obtain rfl := Option.some.inj h
      exact fun _ => trivial
    | undefined => cases h
  | keyword span name =>
    rw [json?] at h
    split at h
    · obtain rfl := Option.some.inj h
      exact fun _ => trivial
    · cases h
  | tuple span items =>
    rw [json?, Option.map_eq_some_iff] at h
    obtain ⟨found, hfound, rfl⟩ := h
    exact fun hparts => Json.spellableItems_of_forall fun x hx =>
      spells_of_jsonItems? items hfound x hx fun p hp => hparts p (.item hx hp)
  | object span fields skipped =>
    cases skipped with
    | nil =>
      rw [json?, Option.map_eq_some_iff] at h
      obtain ⟨found, hfound, rfl⟩ := h
      exact spells_ofMembers (spells_of_jsonMembers? fields hfound)
    | cons _ _ => cases h
  | _ => cases h

theorem spells_of_jsonItems? (items : List TypeExpr) {found : List Json} (h : jsonItems? items = some found) :
    ∀ x ∈ found, Spells x := by
  cases items with
  | nil =>
    obtain rfl := Option.some.inj h
    simp
  | cons t rest =>
    rw [jsonItems?] at h
    split at h
    · rename_i first others hfirst hothers
      obtain rfl := Option.some.inj h
      exact List.forall_mem_cons.mpr ⟨spells_of_json? t hfirst, spells_of_jsonItems? rest hothers⟩
    · cases h

theorem spells_of_jsonMembers? (fields : List (FieldOf TypeExpr)) {found : List (String × Json)}
    (h : jsonMembers? fields = some found) : ∀ m ∈ found, Spells m.2 := by
  cases fields with
  | nil =>
    obtain rfl := Option.some.inj h
    simp
  | cons f rest =>
    rw [jsonMembers?] at h
    split at h
    · rename_i first others hfirst hothers
      obtain rfl := Option.some.inj h
      exact List.forall_mem_cons.mpr ⟨spells_of_jsonOfField? f hfirst, spells_of_jsonMembers? rest hothers⟩
    · cases h

theorem spells_of_jsonOfField? (f : FieldOf TypeExpr) {m : String × Json} (h : jsonOfField? f = some m) :
    Spells m.2 := by
  match f with
  | ⟨name, isOptional, isReadonly, type?, doc?, span⟩ =>
    rw [jsonOfField?, Option.map_eq_some_iff] at h
    obtain ⟨v, hv, rfl⟩ := h
    exact spells_of_jsonOfDeclared? type? hv

theorem spells_of_jsonOfDeclared? (type? : Option TypeExpr) {v : Json} (h : jsonOfDeclared? type? = some v) :
    Spells v := by
  cases type? with
  | none => cases h
  | some t => exact spells_of_json? t h

end

end Syntax.TypeExpr

end ServiceGraph
