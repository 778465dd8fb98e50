import Mathlib
import ServiceGraph.Emission.Literal
import ServiceGraph.Emission.Names

/-!
The names of emitted interfaces: they are different from each other and from all that are taken
(`Emission.nodup_interfaceNames`), and they are identifiers if the descriptors' names are of ASCII characters
(`Emission.isIdentifier_of_mem_interfaceNames`).
-/

namespace ServiceGraph

/-! ## 1. Words of ASCII names -/

namespace Naming

/-- A text of ASCII characters. -/
def IsAscii (name : String) : Prop := ∀ c ∈ name.toList, c.toNat < 128

instance (name : String) : Decidable (IsAscii name) := List.decidableBAll (fun c : Char => c.toNat < 128) name.toList

/-- A text of letters and digits. -/
def IsWord (s : List Char) : Prop := ∀ c ∈ s, c.isAlphanum = true

theorem toNat_of_isAlphanum {c : Char} (h : c.isAlphanum = true) : c.toNat < 128 := by
  simp only [Char.isAlphanum, Char.isAlpha, Char.isUpper, Char.isLower, Char.isDigit, Bool.or_eq_true,
    Bool.and_eq_true, decide_eq_true_eq, ge_iff_le] at h
  have hnat : ∀ bound : UInt32, c.val ≤ bound → c.toNat ≤ bound.toNat := fun _ => UInt32.le_iff_toNat_le.mp
  rcases h with (⟨-, h⟩ | ⟨-, h⟩) | ⟨-, h⟩ <;> exact Nat.lt_of_le_of_lt (hnat _ h) (by decide)

/-- What holds of all codes of ASCII holds of its characters. -/
@[elab_as_elim] theorem of_ascii {motive : Char → Prop} (c : Char) (h : c.toNat < 128)
    (hall : ∀ n : Fin 128, motive (Char.ofNat n.val)) : motive c := by
  have hc := hall ⟨c.toNat, h⟩
  rwa [Char.ofNat_toNat] at hc

/-- What a letter or digit of ASCII becomes in either case is one. -/
theorem isAlphanum_cases {c : Char} (hascii : c.toNat < 128) (h : Text.isAlphanumeric c = true) :
    c.toLower.isAlphanum = true ∧ c.toUpper.isAlphanum = true := by
  revert h
  exact of_ascii c hascii (by decide)

theorem isWord_lowerChar {c : Char} (hascii : c.toNat < 128) (h : Text.isAlphanumeric c = true) :
    IsWord (Text.lowerChar c) := by
  unfold Text.lowerChar
  rw [if_pos hascii]
  intro d hd
  exact List.mem_singleton.mp hd ▸ (isAlphanum_cases hascii h).1

theorem IsWord.append {s t : List Char} (hs : IsWord s) (ht : IsWord t) : IsWord (s ++ t) :=
  fun c hc => (List.mem_append.mp hc).elim (hs c) (ht c)

theorem isWord_of_mem_flush {word w : List Char} (h : IsWord word) (hw : w ∈ flush word) : IsWord w := by
  unfold flush at hw
  split at hw
  · cases hw
  · exact List.mem_singleton.mp hw ▸ h

theorem isWord_of_mem_splitWords (previous : Char) (word s : List Char) (hs : ∀ c ∈ s, c.toNat < 128)
    (hword : IsWord word) : ∀ w ∈ splitWords previous word s, IsWord w := by
  fun_induction splitWords previous word s with
  | case1 previous word => exact fun w hw => isWord_of_mem_flush hword hw
  | case2 previous word c rest hother ih =>
    intro w hw
    rcases List.mem_append.mp hw with hw | hw
    · exact isWord_of_mem_flush hword hw
    · exact ih (fun d hd => hs d (List.mem_cons_of_mem _ hd)) (fun d hd => by cases hd) w hw
  | case3 previous word c rest halnum hstarts ih =>
    have hlower := isWord_lowerChar (hs c List.mem_cons_self) (by simpa using halnum)
    intro w hw
    rcases List.mem_cons.mp hw with rfl | hw
    · exact hword
    · exact ih (fun d hd => hs d (List.mem_cons_of_mem _ hd)) hlower w hw
  | case4 previous word c rest halnum hstarts ih =>
    have hlower := isWord_lowerChar (hs c List.mem_cons_self) (by simpa using halnum)
    exact ih (fun d hd => hs d (List.mem_cons_of_mem _ hd)) (hword.append hlower)

theorem isWord_capitalize {w : List Char} (h : IsWord w) : IsWord (capitalize w) := by
  cases w with
  | nil => exact h
  | cons c rest =>
    have hc := h c List.mem_cons_self
    have hascii := toNat_of_isAlphanum hc
    have halnum : Text.isAlphanumeric c = true := by
      revert hc
      exact of_ascii c hascii (by decide)
    refine IsWord.append (fun d hd => ?_) fun d hd => h d (List.mem_cons_of_mem _ hd)
    rw [Text.upperChar, if_pos hascii, List.mem_singleton] at hd
    exact hd ▸ (isAlphanum_cases hascii halnum).2

theorem isWord_pascalCase {name : String} (h : IsAscii name) : IsWord (pascalCase name).toList := by
  rw [pascalCase, String.toList_ofList]
  intro c hc
  obtain ⟨w, hw, hc⟩ := List.mem_flatMap.mp hc
  exact isWord_capitalize (isWord_of_mem_splitWords ' ' [] name.toList h (fun d hd => by cases hd) w hw) c hc

end Naming

namespace Emission

open Naming

/-! ## 2. Identifiers -/

theorem isNamePart_of_isAlphanum {c : Char} (h : c.isAlphanum = true) : Template.isNamePart c = true := by
  rw [Char.isAlphanum, Bool.or_eq_true] at h
  rcases h with h | h <;> simp [Template.isNamePart, Template.isNameStart, h]

/-- An identifier may go on with letters and digits. -/
theorem isIdentifier_append {name more : String} (h : isIdentifier name = true) (hmore : IsWord more.toList) :
    isIdentifier (name ++ more) = true := by
  unfold isIdentifier at h ⊢
  rw [String.toList_append]
  split at h
  · rename_i first rest heq
    simp only [heq, List.cons_append, List.all_append, Bool.and_eq_true] at h ⊢
    exact ⟨h.1, h.2, List.all_eq_true.mpr fun c hc => isNamePart_of_isAlphanum (hmore c hc)⟩
  · cases h

theorem isIdentifier_baseName {name : String} (h : IsAscii name) : isIdentifier (baseName name) = true := by
  have hword := isWord_pascalCase h
  unfold baseName
  dsimp only
  split
  · rename_i hhead
    unfold isIdentifier
    cases hlist : (pascalCase name).toList with
    | nil => simp [hlist] at hhead
    | cons first rest =>
      rw [hlist] at hword hhead
      have hfirst : Template.isNameStart first = true := by
        have halpha : first.isAlpha = true := by simpa using hhead
        simp [Template.isNameStart, halpha]
      rw [Bool.and_eq_true, List.all_eq_true]
      exact ⟨hfirst, fun c hc => isNamePart_of_isAlphanum (hword c (List.mem_cons_of_mem _ hc))⟩
  · exact isIdentifier_append (by decide) hword

theorem isWord_toString (n : Nat) : IsWord (toString n).toList := by
  rw [Nat.toString_eq_repr, Nat.toList_repr]
  intro c hc
  simp [Char.isAlphanum, Nat.isDigit_of_mem_toDigits (by decide) (by decide) hc]

/-! ## 3. Names that are not taken -/

theorem numbered_spec (stem : String) (taken : List String) (tries number : Nat) :
    (∃ n : Nat, numbered stem taken tries number = stem ++ toString n) ∧
      (numbered stem taken tries number ∈ taken →
        ∀ i ≤ tries, stem ++ toString (number + i) ∈ taken) := by
  fun_induction numbered stem taken tries number with
  | case1 number =>
    refine ⟨⟨number, rfl⟩, fun h i hi => ?_⟩
    obtain rfl : i = 0 := by omega
    exact h
  | case2 tries number name htaken ih =>
    refine ⟨ih.1, fun h i hi => ?_⟩
    cases i with
    | zero => exact List.contains_iff_mem.mp htaken
    | succ i =>
      have hnext := ih.2 h i (by omega)
      rwa [show number + 1 + i = number + (i + 1) by omega] at hnext
  | case3 tries number name hfree =>
    exact ⟨⟨number, rfl⟩, fun h => absurd (List.contains_iff_mem.mpr h) hfree⟩

/-- Of more numbers than there are taken names one is free. -/
theorem freshName_not_mem (stem : String) (taken : List String) : freshName stem taken ∉ taken := by
  unfold freshName
  split
  · intro hmem
    have hall := (numbered_spec stem taken taken.length 2).2 hmem
    let candidates := (List.range (taken.length + 1)).map fun i => stem ++ toString (2 + i)
    have hnodup : candidates.Nodup := by
      refine List.Nodup.map (fun i j hij => ?_) List.nodup_range
      have hrepr : Nat.repr (2 + i) = Nat.repr (2 + j) := String.append_right_inj stem |>.mp hij
      have hdigits : Nat.toDigits 10 (2 + i) = Nat.toDigits 10 (2 + j) := by
        rw [← Nat.toList_repr, ← Nat.toList_repr, hrepr]
      have hnumber := congrArg (Nat.ofDigitChars 10 · 0) hdigits
      simp only [Nat.ofDigitChars_ten_toDigits] at hnumber
      omega
    have hsub : candidates ⊆ taken := by
      intro name hname
      obtain ⟨i, hi, rfl⟩ := List.mem_map.mp hname
      exact hall i (by have := List.mem_range.mp hi; omega)
    have hlength := hnodup.length_le_of_subset hsub
    simp only [candidates, List.length_map, List.length_range] at hlength
    omega
  · rename_i hfree
    exact fun h => hfree (List.contains_iff_mem.mpr h)

theorem isIdentifier_freshName {stem : String} (h : isIdentifier stem = true) (taken : List String) :
    isIdentifier (freshName stem taken) = true := by
  unfold freshName
  split
  · obtain ⟨n, hn⟩ := (numbered_spec stem taken taken.length 2).1
    rw [hn]
    exact isIdentifier_append h (isWord_toString n)
  · exact h

theorem length_interfaceNames (taken stems : List String) :
    (interfaceNames taken stems).length = stems.length := by
  fun_induction interfaceNames taken stems with
  | case1 => rfl
  | case2 taken stem rest name ih => simp [ih]

theorem not_taken_of_mem_interfaceNames (taken stems : List String) :
    ∀ name ∈ interfaceNames taken stems, name ∉ taken := by
  fun_induction interfaceNames taken stems with
  | case1 => simp
  | case2 taken stem rest name ih =>
    intro other hother
    rcases List.mem_cons.mp hother with rfl | hother
    · exact freshName_not_mem stem taken
    · exact fun h => ih other hother (List.mem_cons_of_mem _ h)

/-- **The names of interfaces are all different.** -/
theorem nodup_interfaceNames (taken stems : List String) : (interfaceNames taken stems).Nodup := by
  fun_induction interfaceNames taken stems with
  | case1 => exact List.nodup_nil
  | case2 taken stem rest name ih =>
    exact List.nodup_cons.mpr
      ⟨fun h => not_taken_of_mem_interfaceNames _ rest name h List.mem_cons_self, ih⟩

theorem isIdentifier_of_mem_interfaceNames (taken stems : List String)
    (h : ∀ stem ∈ stems, isIdentifier stem = true) :
    ∀ name ∈ interfaceNames taken stems, isIdentifier name = true := by
  fun_induction interfaceNames taken stems with
  | case1 => simp
  | case2 taken stem rest name ih =>
    intro other hother
    rcases List.mem_cons.mp hother with rfl | hother
    · exact isIdentifier_freshName (h stem List.mem_cons_self) taken
    · exact ih (fun s hs => h s (List.mem_cons_of_mem _ hs)) other hother

end Emission

end ServiceGraph
