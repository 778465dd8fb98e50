import Mathlib
import ServiceGraph.Proofs.Annotation.Values
import ServiceGraph.Proofs.Emission.Names
import ServiceGraph.Proofs.Text.Lines

/-!
The spellings of a name.

A name that is made of plain words, with hyphens between them, has five spellings: itself and the four of the
conventions. All of them split into the same words (`words_of_mem_spellings`). For the hyphen and the underscore the
reason is that a word ends at the separator, in whichever case it is written (`splitWords_intercalate`); where words
stand next to each other, that each begins with a capital, perhaps but for the first, and ends with a small letter or a
digit (`splitWords_capitalized`). So any spelling is tried for any other one, except that no convention writes a hyphen
(`spellings_spec`).
-/

namespace ServiceGraph.Naming

open Text (isAlphanumeric isUppercase isLowercase isNumeric lowerChar upperChar upper)

variable {c previous sep : Char} {s text w word rest : List Char} {ws texts : List (List Char)} {name : String}

/-! ## 1. Letters and digits -/

/-- Small letters, and digits behind them; two characters at least. -/
structure IsPlainWord (w : List Char) : Prop where
  parts : ∃ letters digits, w = letters ++ digits ∧ letters ≠ [] ∧
    (∀ c ∈ letters, c.isLower = true) ∧ ∀ c ∈ digits, c.isDigit = true
  long : 2 ≤ w.length

/-- A small letter or a digit. -/
def IsSmall (c : Char) : Prop := c.isLower = true ∨ c.isDigit = true

theorem toNat_of_isSmall (h : IsSmall c) : c.toNat < 128 := by
  apply toNat_of_isAlphanum
  rcases h with h | h <;> simp [Char.isAlphanum, Char.isAlpha, h]

/-- A small letter and its capital. -/
theorem lower_cases (h : c.isLower = true) :
    (isAlphanumeric c = true ∧ isUppercase c = false ∧ isLowercase c = true ∧ lowerChar c = [c]) ∧
      upperChar c = [c.toUpper] ∧ isAlphanumeric c.toUpper = true ∧ isUppercase c.toUpper = true ∧
        isLowercase c.toUpper = false ∧ isNumeric c.toUpper = false ∧ lowerChar c.toUpper = [c] := by
  have hascii := toNat_of_isSmall (.inl h)
  revert h
  exact of_ascii c hascii (by decide)

/-- A digit is in both cases. -/
theorem digit_cases (h : c.isDigit = true) :
    isAlphanumeric c = true ∧ isUppercase c = false ∧ isLowercase c = false ∧ isNumeric c = true ∧
      lowerChar c = [c] ∧ upperChar c = [c] := by
  have hascii := toNat_of_isSmall (.inr h)
  revert h
  exact of_ascii c hascii (by decide)

theorem IsPlainWord.small (h : IsPlainWord w) : ∀ c ∈ w, IsSmall c := by
  obtain ⟨letters, digits, rfl, -, hletters, hdigits⟩ := h.parts
  intro c hc
  exact (List.mem_append.mp hc).imp (hletters c) (hdigits c)

theorem IsPlainWord.ne_nil (h : IsPlainWord w) : w ≠ [] := by
  rintro rfl
  exact absurd h.long (by decide)

/-- A plain word begins with a letter, and has more than that. -/
theorem IsPlainWord.exists_cons (h : IsPlainWord w) : ∃ c s, w = c :: s ∧ c.isLower = true ∧ s ≠ [] := by
  have hlong := h.long
  obtain ⟨letters, digits, rfl, hne, hletters, -⟩ := h.parts
  cases letters with
  | nil => exact absurd rfl hne
  | cons c letters =>
    refine ⟨c, letters ++ digits, rfl, hletters c List.mem_cons_self, ?_⟩
    rintro hnil
    simp [hnil] at hlong

theorem IsPlainWord.isWord (h : IsPlainWord w) : IsWord w := by
  intro c hc
  rcases h.small c hc with h | h <;> simp [Char.isAlphanum, Char.isAlpha, h]

/-! ## 2. Splitting step by step -/

theorem splitWords_separator (h : isAlphanumeric c = false) :
    splitWords previous word (c :: rest) = flush word ++ splitWords c [] rest := by
  rw [splitWords, h]
  rfl

theorem splitWords_goesOn (hc : isAlphanumeric c = true) (h : word = [] ∨ startsWord previous c rest = false) :
    splitWords previous word (c :: rest) = splitWords c (word ++ lowerChar c) rest := by
  rw [splitWords, hc]
  rcases h with rfl | h <;> simp_all

theorem splitWords_starts (hc : isAlphanumeric c = true) (hword : word ≠ [])
    (h : startsWord previous c rest = true) :
    splitWords previous word (c :: rest) = word :: splitWords c (lowerChar c) rest := by
  rw [splitWords, hc, h]
  simp [hword]

theorem flush_of_ne_nil (h : word ≠ []) : flush word = [word] := by
  simp [flush, h]

/-- Small letters and digits go on with a word. -/
theorem splitWords_small : ∀ (s : List Char), (∀ c ∈ s, IsSmall c) → ∀ (previous : Char) (word rest : List Char),
    splitWords previous word (s ++ rest) = splitWords (s.getLastD previous) (word ++ s) rest
  | [], _, previous, word, rest => by simp
  | c :: s, h, previous, word, rest => by
      have hclass : isAlphanumeric c = true ∧ isUppercase c = false ∧ lowerChar c = [c] := by
        rcases h c List.mem_cons_self with hc | hc
        · have hcases := (lower_cases hc).1
          exact ⟨hcases.1, hcases.2.1, hcases.2.2.2⟩
        · have hcases := digit_cases hc
          exact ⟨hcases.1, hcases.2.1, hcases.2.2.2.2.1⟩
      rw [List.cons_append, splitWords_goesOn hclass.1 (.inr (by simp [startsWord, hclass.2.1])), hclass.2.2,
        splitWords_small s fun d hd => h d (List.mem_cons_of_mem _ hd), List.getLastD_cons, List.append_assoc]
      rfl

/-- So do capitals, if no small letter follows them. -/
theorem splitWords_capitals : ∀ (s : List Char), (∀ c ∈ s, c.isLower = true) →
    ∀ (previous : Char) (word rest : List Char),
      (word = [] ∨ isLowercase previous = false ∧ isNumeric previous = false) →
      (∀ c ∈ rest.head?, isLowercase c = false) →
        splitWords previous word (upper s ++ rest) = splitWords ((upper s).getLastD previous) (word ++ s) rest
  | [], _, previous, word, rest, _, _ => by simp [upper]
  | c :: s, h, previous, word, rest, hprevious, hrest => by
      obtain ⟨-, hupper, halnum, -, hlower, hnumeric, hback⟩ := lower_cases (h c List.mem_cons_self)
      have hs : ∀ d ∈ s, d.isLower = true := fun d hd => h d (List.mem_cons_of_mem _ hd)
      -- A capital in front of a small letter would start a word of its own.
      have hnext : (upper s ++ rest).head?.any isLowercase = false := by
        cases s with
        | nil => cases rest <;> simp_all [upper]
        | cons d s =>
          obtain ⟨-, hd, -, -, hdlower, -⟩ := lower_cases (hs d List.mem_cons_self)
          simp [upper, hd, hdlower]
      have hgoes : word = [] ∨ startsWord previous c.toUpper (upper s ++ rest) = false :=
        hprevious.imp_right fun hp => by simp only [startsWord, hp.1, hp.2, hnext, Bool.or_self, Bool.and_false]
      have hsplit : upper (c :: s) = c.toUpper :: upper s := by
        rw [upper, List.flatMap_cons, hupper]
        rfl
      rw [hsplit, List.cons_append, splitWords_goesOn halnum hgoes, hback,
        splitWords_capitals s hs _ _ rest (.inr ⟨hlower, hnumeric⟩) hrest, List.getLastD_cons, List.append_assoc]
      rfl

/-! ## 3. Words with separators -/

/-- A text that is read as a word where a word may begin, if no small letter follows. -/
def ReadAs (text w : List Char) : Prop :=
  ∀ previous rest, (∀ c ∈ rest.head?, isLowercase c = false) →
    ∃ last, splitWords previous [] (text ++ rest) = splitWords last w rest

theorem IsPlainWord.readAs_self (h : IsPlainWord w) : ReadAs w w := by
  intro previous rest _
  exact ⟨_, splitWords_small w h.small previous [] rest⟩

theorem IsPlainWord.readAs_upper (h : IsPlainWord w) : ReadAs (upper w) w := by
  intro previous rest hrest
  obtain ⟨letters, digits, rfl, -, hletters, hdigits⟩ := h.parts
  have hupper : upper digits = digits := by
    rw [upper]
    conv => rhs; rw [← List.flatMap_singleton' digits]
    exact List.flatMap_congr fun c hc => (digit_cases (hdigits c hc)).2.2.2.2.2
  have hsplit : upper (letters ++ digits) = upper letters ++ digits := by
    rw [upper, List.flatMap_append]
    exact congrArg _ hupper
  have hbehind : ∀ c ∈ (digits ++ rest).head?, isLowercase c = false := by
    cases digits with
    | nil => exact hrest
    | cons d digits =>
      intro c hc
      cases hc
      exact (digit_cases (hdigits d List.mem_cons_self)).2.2.1
  refine ⟨digits.getLastD ((upper letters).getLastD previous), ?_⟩
  rw [hsplit, List.append_assoc, splitWords_capitals letters hletters previous [] _ (.inl rfl) hbehind,
    splitWords_small digits fun c hc => .inr (hdigits c hc), List.nil_append]

/-- A name splits where its separators are. -/
theorem splitWords_intercalate (hsep : isAlphanumeric sep = false) (hlower : isLowercase sep = false)
    (h : List.Forall₂ ReadAs texts ws) (hws : ∀ w ∈ ws, w ≠ []) :
    ∀ previous, splitWords previous [] ([sep].intercalate texts) = ws := by
  induction h with
  | nil => intro previous; rfl
  | @cons text w texts ws hread hrest ih =>
    intro previous
    have hw : flush w = [w] := flush_of_ne_nil (hws w List.mem_cons_self)
    have ih := ih fun v hv => hws v (List.mem_cons_of_mem _ hv)
    cases hrest with
    | nil =>
      obtain ⟨last, hlast⟩ := hread previous [] (by simp)
      rw [List.intercalate_singleton, ← List.append_nil text, hlast, splitWords, hw]
    | cons hnext hmore =>
      obtain ⟨last, hlast⟩ := hread previous (sep :: [sep].intercalate _) (by simpa using hlower)
      rw [List.intercalate_cons_cons, List.append_assoc, List.singleton_append, hlast,
        splitWords_separator hsep, hw, ih sep]
      rfl

theorem upper_intercalate : ∀ ws : List (List Char),
    upper (['_'].intercalate ws) = ['_'].intercalate (ws.map upper)
  | [] => rfl
  | [w] => by simp
  | w :: next :: more => by
      have hscore : upper ['_'] = ['_'] := by decide
      have happend : ∀ s t : List Char, upper (s ++ t) = upper s ++ upper t := fun _ _ => List.flatMap_append
      rw [List.intercalate_cons_cons, happend, happend, hscore, upper_intercalate (next :: more)]
      simp only [List.map_cons, List.intercalate_cons_cons]

/-! ## 4. Words with capitals -/

theorem isLowercase_or_isNumeric_getLastD (hs : s ≠ []) (h : ∀ c ∈ s, IsSmall c) :
    isLowercase (s.getLastD c) = true ∨ isNumeric (s.getLastD c) = true := by
  have hlast : s.getLastD c ∈ s := by
    rw [List.getLastD_eq_getLast?, List.getLast?_eq_some_getLast hs]
    exact List.getLast_mem hs
  exact (h _ hlast).imp (fun hc => (lower_cases hc).1.2.2.1) fun hc => (digit_cases hc).2.2.2.1

/-- Behind a small letter or a digit every capital starts a word. -/
theorem splitWords_capitalized : ∀ (ws : List (List Char)), (∀ w ∈ ws, IsPlainWord w) →
    ∀ (previous : Char) (word : List Char),
      (word = [] ∨ isLowercase previous = true ∨ isNumeric previous = true) →
        splitWords previous word (ws.flatMap capitalize) = flush word ++ ws
  | [], _, previous, word, _ => by simp [splitWords]
  | w :: ws, h, previous, word, hprevious => by
      have hw := h w List.mem_cons_self
      have hsmall := hw.small
      obtain ⟨c, s, rfl, hc, hs⟩ := hw.exists_cons
      obtain ⟨-, hupper, halnum, hcapital, -, -, hback⟩ := lower_cases hc
      have hs' : ∀ d ∈ s, IsSmall d := fun d hd => hsmall d (List.mem_cons_of_mem _ hd)
      have hrest : splitWords c.toUpper [c] (s ++ ws.flatMap capitalize) = (c :: s) :: ws := by
        rw [splitWords_small s hs', splitWords_capitalized ws (fun v hv => h v (List.mem_cons_of_mem _ hv)) _ _
          (.inr (isLowercase_or_isNumeric_getLastD hs hs'))]
        rfl
      rw [List.flatMap_cons, capitalize, hupper, List.append_assoc, List.singleton_append]
      by_cases hword : word = []
      · subst hword
        rw [splitWords_goesOn halnum (.inl rfl), hback]
        exact hrest
      · have hstarts : startsWord previous c.toUpper (s ++ ws.flatMap capitalize) = true := by
          rcases hprevious.resolve_left hword with hp | hp <;> simp [startsWord, hcapital, hp]
        rw [splitWords_starts halnum hword hstarts, hback, flush_of_ne_nil hword, hrest]
        rfl

/-! ## 5. The five spellings -/

/-- Words with hyphens between them. -/
def hyphenated (ws : List (List Char)) : String := String.ofList (['-'].intercalate ws)

/-- The spellings of a name by the four conventions. -/
def conventional (name : String) : List String :=
  [camelCase name, pascalCase name, snakeCase name, screamingCase name]

/-- The five spellings of a name. -/
def spellings (name : String) : List String := name :: conventional name

theorem variants_eq (name : String) : variants name = distinct ((spellings name).filter (!·.isEmpty)) := rfl

/-- A convention only uses the words of a name. -/
theorem conventional_congr {t : String} (h : words t = words name) : conventional t = conventional name := by
  simp only [conventional, camelCase, pascalCase, snakeCase, snakeChars, screamingCase, h]

section

variable (hws : ∀ w ∈ ws, IsPlainWord w)

include hws

theorem splitWords_separated (hsep : isAlphanumeric sep = false) (hlower : isLowercase sep = false)
    (h : List.Forall₂ ReadAs texts ws) : splitWords ' ' [] ([sep].intercalate texts) = ws :=
  splitWords_intercalate hsep hlower h (fun w hw => (hws w hw).ne_nil) ' '

theorem forall₂_readAs_self : List.Forall₂ ReadAs ws ws :=
  List.forall₂_same.mpr fun w hw => (hws w hw).readAs_self

theorem forall₂_readAs_upper : List.Forall₂ ReadAs (ws.map upper) ws :=
  List.forall₂_map_left_iff.mpr (List.forall₂_same.mpr fun w hw => (hws w hw).readAs_upper)

theorem words_hyphenated : words (hyphenated ws) = ws := by
  rw [words, hyphenated, String.toList_ofList]
  exact splitWords_separated hws (by decide) (by decide) (forall₂_readAs_self hws)

theorem words_camelCase (h : words name = ws) : words (camelCase name) = ws := by
  subst h
  unfold camelCase
  split
  · rename_i hnil
    rw [hnil]
    rfl
  · rename_i first rest hcons
    rw [hcons] at hws ⊢
    have hfirst := hws first List.mem_cons_self
    rw [words, String.toList_ofList, splitWords_small first hfirst.small,
      splitWords_capitalized rest (fun w hw => hws w (List.mem_cons_of_mem _ hw)) _ _
        (.inr (isLowercase_or_isNumeric_getLastD hfirst.ne_nil hfirst.small)),
      List.nil_append, flush_of_ne_nil hfirst.ne_nil]
    rfl

theorem words_pascalCase (h : words name = ws) : words (pascalCase name) = ws := by
  rw [pascalCase, h, words, String.toList_ofList, splitWords_capitalized ws hws ' ' [] (.inl rfl)]
  rfl

theorem words_snakeCase (h : words name = ws) : words (snakeCase name) = ws := by
  rw [snakeCase, snakeChars, h, words, String.toList_ofList]
  exact splitWords_separated hws (by decide) (by decide) (forall₂_readAs_self hws)

theorem words_screamingCase (h : words name = ws) : words (screamingCase name) = ws := by
  rw [screamingCase, snakeChars, h, words, String.toList_ofList, upper_intercalate]
  exact splitWords_separated hws (by decide) (by decide) (forall₂_readAs_upper hws)

/-- All spellings have the same words. -/
theorem words_of_mem_spellings : ∀ s ∈ spellings (hyphenated ws), words s = ws := by
  have hwords := words_hyphenated hws
  simp only [spellings, conventional, List.forall_mem_cons]
  exact ⟨hwords, words_camelCase hws hwords, words_pascalCase hws hwords, words_snakeCase hws hwords,
    words_screamingCase hws hwords, by simp⟩

end

/-! ## 6. Hyphens -/

theorem IsWord.isNamePart (h : IsWord w) : ∀ c ∈ w, Template.isNamePart c = true :=
  fun c hc => Emission.isNamePart_of_isAlphanum (h c hc)

theorem isWord_upper (h : IsWord w) : IsWord (upper w) := by
  intro d hd
  obtain ⟨c, hc, hd⟩ := List.mem_flatMap.mp hd
  exact isWord_capitalize (w := [c]) (fun e he => List.mem_singleton.mp he ▸ h c hc) d (by simpa [capitalize] using hd)

/-- What the conventions write can stand in an identifier: letters, digits and underscores. -/
theorem isNamePart_of_mem_conventional (h : ∀ w ∈ words name, IsWord w) :
    ∀ s ∈ conventional name, ∀ c ∈ s.toList, Template.isNamePart c = true := by
  have hcapitals : ∀ ws : List (List Char), (∀ w ∈ ws, IsWord w) →
      ∀ c ∈ ws.flatMap capitalize, Template.isNamePart c = true := by
    intro ws hws c hc
    obtain ⟨w, hw, hc⟩ := List.mem_flatMap.mp hc
    exact (isWord_capitalize (hws w hw)).isNamePart c hc
  have hscores : ∀ ws : List (List Char), (∀ w ∈ ws, IsWord w) →
      ∀ c ∈ ['_'].intercalate ws, Template.isNamePart c = true := by
    intro ws hws c hc
    rcases Text.mem_intercalate hc with hc | ⟨w, hw, hc⟩
    · exact List.mem_singleton.mp hc ▸ rfl
    · exact (hws w hw).isNamePart c hc
  simp only [conventional, List.forall_mem_cons]
  refine ⟨?_, ?_, ?_, ?_, by simp⟩
  · unfold camelCase
    split
    · simp
    · rename_i first rest hcons
      rw [hcons] at h
      rw [String.toList_ofList]
      intro c hc
      rcases List.mem_append.mp hc with hc | hc
      · exact (h first List.mem_cons_self).isNamePart c hc
      · exact hcapitals rest (fun w hw => h w (List.mem_cons_of_mem _ hw)) c hc
  · rw [pascalCase, String.toList_ofList]
    exact hcapitals _ h
  · rw [snakeCase, snakeChars, String.toList_ofList]
    exact hscores _ h
  · rw [screamingCase, snakeChars, String.toList_ofList, upper_intercalate]
    refine hscores _ fun v hv => ?_
    obtain ⟨w, hw, rfl⟩ := List.mem_map.mp hv
    exact isWord_upper (h w hw)

/-- No convention writes a hyphen. -/
theorem hyphen_not_mem_of_conventional (h : ∀ w ∈ words name, IsWord w) :
    ∀ s ∈ conventional name, '-' ∉ s.toList :=
  fun s hs hmem => absurd (isNamePart_of_mem_conventional h s hs _ hmem) (by decide)

/-- A name without a hyphen is one word, which the conventions do not change. -/
theorem hyphenated_mem_conventional (hne : ws ≠ []) (hws : ∀ w ∈ ws, IsPlainWord w)
    (h : '-' ∉ (hyphenated ws).toList) : hyphenated ws ∈ conventional (hyphenated ws) := by
  have hwords := words_hyphenated hws
  match ws, hne with
  | [w], _ =>
    have hsnake : snakeCase (hyphenated [w]) = hyphenated [w] := by
      rw [snakeCase, snakeChars, hwords]
      rfl
    simp [conventional, hsnake]
  | v :: w :: more, _ =>
    rw [hyphenated, String.toList_ofList, List.intercalate_cons_cons] at h
    simp at h

/-! ## 7. Variants -/

theorem mem_variants {s t : String} : s ∈ variants t ↔ s ∈ spellings t ∧ s ≠ "" := by
  rw [variants_eq, mem_distinct, List.mem_filter]
  simp

/-- **All spellings of a name spell the same words.** The words are those that the name is made of. Only the name
itself may have a hyphen; and of any two spellings each is tried for the other one, if it has no hyphen or is
the same. -/
theorem spellings_spec (hne : ws ≠ []) (hws : ∀ w ∈ ws, IsPlainWord w) :
    (∀ s ∈ spellings (hyphenated ws), words s = ws) ∧
    (∀ s ∈ spellings (hyphenated ws), '-' ∈ s.toList → s = hyphenated ws) ∧
    ∀ s ∈ spellings (hyphenated ws), ∀ t ∈ spellings (hyphenated ws),
      (s ∈ variants t ↔ ('-' ∈ s.toList → s = t)) := by
  have hwords := words_of_mem_spellings hws
  have hname := words_hyphenated hws
  have hplain : ∀ s ∈ conventional (hyphenated ws), '-' ∉ s.toList :=
    hyphen_not_mem_of_conventional (hname.symm ▸ fun w hw => (hws w hw).isWord)
  refine ⟨hwords, fun s hs hhyphen => (List.mem_cons.mp hs).resolve_right fun h => hplain s h hhyphen, ?_⟩
  intro s hs t ht
  have hsame : conventional t = conventional (hyphenated ws) := conventional_congr ((hwords t ht).trans hname.symm)
  have hnonempty : s ≠ "" := by
    rintro rfl
    exact hne (hwords "" hs).symm
  rw [mem_variants, spellings, hsame, List.mem_cons]
  constructor
  · rintro ⟨rfl | h, -⟩ hhyphen
    · rfl
    · exact absurd hhyphen (hplain s h)
  · intro h
    refine ⟨?_, hnonempty⟩
    by_cases hhyphen : '-' ∈ s.toList
    · exact .inl (h hhyphen)
    · right
      rcases List.mem_cons.mp hs with rfl | hs
      · exact hyphenated_mem_conventional hne hws hhyphen
      · exact hs

/-- A name with a digit in it. -/
theorem Sample.search_spellings :
    spellings (hyphenated ["v2".toList, "search".toList]) =
        ["v2-search", "v2Search", "V2Search", "v2_search", "V2_SEARCH"] ∧
      words "V2Search" = ["v2".toList, "search".toList] ∧ "v2Search" ∈ variants "V2_SEARCH" ∧
        "v2-search" ∉ variants "V2Search" := by
  have hws : ∀ w ∈ ["v2".toList, "search".toList], IsPlainWord w := by
    simp only [List.forall_mem_cons]
    exact ⟨⟨⟨['v'], ['2'], rfl, by decide, List.all_eq_true.mp (by decide), List.all_eq_true.mp (by decide)⟩,
        by decide⟩,
      ⟨⟨"search".toList, [], rfl, by decide, List.all_eq_true.mp (by decide), by simp⟩, by decide⟩, by simp⟩
  have hall : spellings (hyphenated ["v2".toList, "search".toList]) =
      ["v2-search", "v2Search", "V2Search", "v2_search", "V2_SEARCH"] := by decide
  obtain ⟨hwords, -, hfound⟩ := spellings_spec (by decide) hws
  rw [hall] at hwords hfound
  refine ⟨hall, hwords _ (by decide), (hfound _ (by decide) _ (by decide)).mpr (by decide), fun h => ?_⟩
  exact absurd ((hfound _ (by decide) _ (by decide)).mp h (by decide)) (by decide)

end ServiceGraph.Naming
