import Mathlib.Data.List.TakeWhile
import ServiceGraph.Proofs.Annotation.Values
import ServiceGraph.Template

/-!
`Template.placeholders` misses none.

`Template.Uses` says without reading from the left that a text has a placeholder for a name somewhere.
Two placeholders never overlap: inside of one there is no further opening brace. So what a placeholder
takes can be skipped (`suffix_of_placeholder?`), and the search comes across all of them
(`mem_placeholders_of_uses`).
-/

namespace ServiceGraph.Template

/-- Whether a name may stand in a placeholder. -/
def IsName : List Char → Prop
  | [] => False
  | first :: rest => isNameStart first = true ∧ ∀ c ∈ rest, isNamePart c = true

/-- A text begins with a placeholder for a name. -/
def Starts (name s : List Char) : Prop :=
  ∃ before after behind,
    s = '\x7b' :: '\x7b' :: (before ++ (name ++ (after ++ '\x7d' :: '\x7d' :: behind))) ∧
      (∀ c ∈ before, Text.isWhiteSpace c = true) ∧ ∀ c ∈ after, Text.isWhiteSpace c = true

/-- A text begins with a placeholder for a name, and `behind` is what follows it. -/
def Takes (name behind s : List Char) : Prop :=
  ∃ before after,
    s = '\x7b' :: '\x7b' :: (before ++ (name ++ (after ++ '\x7d' :: '\x7d' :: behind))) ∧
      (∀ c ∈ before, Text.isWhiteSpace c = true) ∧ ∀ c ∈ after, Text.isWhiteSpace c = true

/-- A text has a placeholder for a name somewhere. -/
def Uses (text name : String) : Prop :=
  IsName name.toList ∧ ∃ s, s <:+ text.toList ∧ Starts name.toList s

theorem Uses.ne_empty {text name : String} (h : Uses text name) : text ≠ "" := by
  rintro rfl
  obtain ⟨-, s, hs, before, after, behind, rfl, -, -⟩ := h
  simp at hs

/-! ## 1. Characters -/

theorem isWhiteSpace_of_isNamePart {c : Char} (h : isNamePart c = true) :
    Text.isWhiteSpace c = false := by
  have hrange : 33 ≤ c.toNat ∧ c.toNat < 128 := by
    simp only [isNamePart, isNameStart, Char.isAlpha, Char.isUpper, Char.isLower, Char.isDigit,
      Bool.or_eq_true, Bool.and_eq_true, decide_eq_true_eq, UInt32.le_iff_toNat_le] at h
    have hval : c.val.toNat = c.toNat := rfl
    rcases h with (((h | h) | h) | h) | h
    · have := h.1; have := h.2; simp at *; omega
    · have := h.1; have := h.2; simp at *; omega
    · subst h; decide
    · subst h; decide
    · have := h.1; have := h.2; simp at *; omega
  unfold Text.isWhiteSpace
  rw [if_pos hrange.2]
  have h₁ : c.toNat ≠ 32 := by omega
  have h₂ : ¬ c.toNat ≤ 13 := by omega
  simp [h₁, h₂]

theorem ne_brace_of_isWhiteSpace {c : Char} (h : Text.isWhiteSpace c = true) :
    c ≠ '\x7b' ∧ c ≠ '\x7d' := by
  constructor <;>
  · rintro rfl
    simp [Text.isWhiteSpace] at h

theorem ne_brace_of_isNamePart {c : Char} (h : isNamePart c = true) : c ≠ '\x7b' ∧ c ≠ '\x7d' := by
  constructor <;>
  · rintro rfl
    exact absurd h (by decide)

theorem isNamePart_of_isName {name : List Char} (h : IsName name) :
    ∀ c ∈ name, isNamePart c = true := by
  cases name with
  | nil => exact h.elim
  | cons first rest =>
    intro c hc
    rcases List.mem_cons.mp hc with rfl | hc
    · simp [isNamePart, h.1]
    · exact h.2 c hc

/-! ## 2. One placeholder -/

/-- What is taken of a text and skipped, if all of the first part and nothing in front of the second
one is of a sort. -/
theorem takeWhile_append_of_stop {p : Char → Bool} {xs : List Char} (ys : List Char)
    (hxs : ∀ c ∈ xs, p c = true) (hys : ∀ c ∈ ys.head?, p c = false) :
    (xs ++ ys).takeWhile p = xs ∧ (xs ++ ys).dropWhile p = ys := by
  rw [List.takeWhile_append_of_pos hxs, List.dropWhile_append_of_pos hxs]
  cases ys with
  | nil => simp
  | cons y rest =>
    have hy : ¬ p y = true := by simp [hys y rfl]
    rw [List.takeWhile_cons_of_neg hy, List.dropWhile_cons_of_neg hy]
    simp

theorem starts_iff {name s : List Char} : Starts name s ↔ ∃ behind, Takes name behind s :=
  ⟨fun ⟨before, after, behind, h⟩ => ⟨behind, before, after, h⟩,
    fun ⟨behind, before, after, h⟩ => ⟨before, after, behind, h⟩⟩

/-- A placeholder is found where a text begins with one. -/
theorem placeholder?_of_takes {name behind s : List Char} (hname : IsName name) (h : Takes name behind s) :
    placeholder? s = some (name, behind) := by
  obtain ⟨before, after, rfl, hbefore, hafter⟩ := h
  have hparts := isNamePart_of_isName hname
  cases name with
  | nil => exact hname.elim
  | cons first others =>
    have hbody := (takeWhile_append_of_stop
      ((first :: others) ++ (after ++ '\x7d' :: '\x7d' :: behind)) hbefore (by
        intro c hc
        cases hc
        exact isWhiteSpace_of_isNamePart (hparts _ List.mem_cons_self))).2
    have htoken := takeWhile_append_of_stop (after ++ '\x7d' :: '\x7d' :: behind) hparts (by
      intro c hc
      cases after with
      | nil => cases hc; rfl
      | cons a rest =>
        obtain rfl : a = c := by simpa using hc
        by_contra hpart
        have hspace := hafter a List.mem_cons_self
        rw [isWhiteSpace_of_isNamePart (by simpa using hpart)] at hspace
        cases hspace)
    have hend := (takeWhile_append_of_stop ('\x7d' :: '\x7d' :: behind) hafter (by
      intro c hc
      cases hc
      decide)).2
    simp only [placeholder?, hbody, htoken.1, htoken.2, hend, hname.1, if_true]

theorem placeholder?_of_starts {name s : List Char} (hname : IsName name) (h : Starts name s) :
    ∃ rest, placeholder? s = some (name, rest) := by
  obtain ⟨behind, h⟩ := starts_iff.mp h
  exact ⟨behind, placeholder?_of_takes hname h⟩

/-- Only a placeholder is found. -/
theorem takes_of_placeholder? {name s rest : List Char} (h : placeholder? s = some (name, rest)) :
    IsName name ∧ Takes name rest s := by
  unfold placeholder? at h
  split at h
  · rename_i tail
    dsimp only at h
    split at h
    · rename_i first others behind htoken hend
      split at h
      · rename_i hfirst
        cases h
        have hbody := tail.takeWhile_append_dropWhile (p := Text.isWhiteSpace)
        have htail := (tail.dropWhile Text.isWhiteSpace).takeWhile_append_dropWhile (p := isNamePart)
        have hgap := ((tail.dropWhile Text.isWhiteSpace).dropWhile
          isNamePart).takeWhile_append_dropWhile (p := Text.isWhiteSpace)
        rw [hend] at hgap
        rw [← hgap] at htail
        rw [← htail] at hbody
        have hparts : ∀ c ∈ first :: others, isNamePart c = true :=
          fun c hc => List.mem_takeWhile_imp (htoken ▸ hc)
        refine ⟨⟨hfirst, fun c hc => hparts c (List.mem_cons_of_mem _ hc)⟩, tail.takeWhile Text.isWhiteSpace,
          ((tail.dropWhile Text.isWhiteSpace).dropWhile isNamePart).takeWhile Text.isWhiteSpace, ?_,
          fun c hc => List.mem_takeWhile_imp hc, fun c hc => List.mem_takeWhile_imp hc⟩
        rw [← htoken, hbody]
      · simp at h
    · simp at h
  · simp at h

theorem placeholder?_eq_some_iff {name s rest : List Char} :
    placeholder? s = some (name, rest) ↔ IsName name ∧ Takes name rest s :=
  ⟨takes_of_placeholder?, fun h => placeholder?_of_takes h.1 h.2⟩

/-- What a placeholder takes, without its first two characters, has no opening brace and is not
empty. -/
theorem exists_of_placeholder? {name s rest : List Char} (h : placeholder? s = some (name, rest)) :
    ∃ c plain, s = '\x7b' :: '\x7b' :: (c :: plain ++ rest) ∧ ∀ d ∈ c :: plain, d ≠ '\x7b' := by
  obtain ⟨hname, before, after, rfl, hbefore, hafter⟩ := takes_of_placeholder? h
  obtain ⟨c, plain, hplain⟩ : ∃ c plain, before ++ (name ++ (after ++ ['\x7d', '\x7d'])) = c :: plain :=
    List.exists_cons_of_ne_nil (by simp)
  refine ⟨c, plain, by simp [← hplain], fun d hd => ?_⟩
  rw [← hplain] at hd
  simp only [List.mem_append, List.mem_cons, List.not_mem_nil, or_false, or_self] at hd
  rcases hd with hd | hd | hd | rfl
  · exact (ne_brace_of_isWhiteSpace (hbefore d hd)).1
  · exact (ne_brace_of_isNamePart (isNamePart_of_isName hname d hd)).1
  · exact (ne_brace_of_isWhiteSpace (hafter d hd)).1
  · decide

/-! ## 3. All placeholders -/

/-- What begins with a brace does not begin among characters without one. -/
theorem suffix_of_plain {s rest : List Char} (hs : s.head? = some '\x7b') :
    ∀ plain : List Char, (∀ c ∈ plain, c ≠ '\x7b') → s <:+ plain ++ rest → s <:+ rest
  | [], _, h => h
  | c :: plain, hplain, h => by
      rw [List.cons_append, List.suffix_cons_iff] at h
      rcases h with rfl | h
      · cases hs
        exact absurd rfl (hplain _ List.mem_cons_self)
      · exact suffix_of_plain hs plain (fun d hd => hplain d (List.mem_cons_of_mem _ hd)) h

/-- No other placeholder begins in what a placeholder takes. -/
theorem suffix_of_placeholder? {name found s text rest : List Char} (hs : Starts name s)
    (hsuffix : s <:+ text) (h : placeholder? text = some (found, rest)) :
    s = text ∨ s <:+ rest := by
  obtain ⟨c, plain, rfl, hplain⟩ := exists_of_placeholder? h
  obtain ⟨before, after, behind, rfl, -, -⟩ := hs
  rw [List.suffix_cons_iff] at hsuffix
  rcases hsuffix with heq | hsuffix
  · exact .inl heq
  rw [List.suffix_cons_iff] at hsuffix
  rcases hsuffix with heq | hsuffix
  · have hbrace : '\x7b' = c := by
      have := (List.cons.inj heq).2
      rw [List.cons_append] at this
      exact (List.cons.inj this).1
    exact absurd hbrace.symm (hplain c List.mem_cons_self)
  · exact .inr (suffix_of_plain rfl _ hplain hsuffix)

theorem mem_occurrences {name s : List Char} (hname : IsName name) (hs : Starts name s)
    (text : List Char) (hsuffix : s <:+ text) : name ∈ occurrences text := by
  fun_induction occurrences text with
  | case1 text found rest h _ ih =>
    rcases suffix_of_placeholder? hs hsuffix h with rfl | hsuffix
    · obtain ⟨behind, hfirst⟩ := placeholder?_of_starts hname hs
      rw [h] at hfirst
      cases hfirst
      exact List.mem_cons_self
    · exact List.mem_cons_of_mem _ (ih hsuffix)
  | case2 h =>
    obtain ⟨before, after, behind, rfl, -, -⟩ := hs
    simp at hsuffix
  | case3 c rest h ih =>
    rw [List.suffix_cons_iff] at hsuffix
    rcases hsuffix with rfl | hsuffix
    · obtain ⟨behind, hfirst⟩ := placeholder?_of_starts hname hs
      rw [h] at hfirst
      cases hfirst
    · exact ih hsuffix

/-- **No placeholder is missed.** -/
theorem mem_placeholders_of_uses {text name : String} (h : Uses text name) :
    name ∈ placeholders text := by
  obtain ⟨hname, s, hsuffix, hs⟩ := h
  refine List.mem_map.mpr ⟨name.toList, ?_, String.ofList_toList⟩
  rw [Naming.mem_distinct]
  exact mem_occurrences hname hs _ hsuffix

end ServiceGraph.Template
