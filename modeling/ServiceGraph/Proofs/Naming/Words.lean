import ServiceGraph.Proofs.Naming.Spellings

/-!
The words of a name.

A name is cut in front of a capital and at every character that is neither letter nor number. Whatever stands there, the
letters and numbers are all in the words, in lower case and in their order (`flatten_splitWords`), and no word is empty
(`ne_nil_of_mem_splitWords`). What stands behind a separator is split as if it stood alone
(`splitWords_append_separator`), so a separator never stands inside a word (`words_lossless`).
-/

namespace ServiceGraph.Naming

open Text (isAlphanumeric isLowercase lowerChar lowerChar_ne_nil)

variable {c previous sep : Char} {s word front back : List Char} {name : String}

/-- The letters and numbers of a text, in lower case. -/
def lowered (s : List Char) : List Char := (s.filter isAlphanumeric).flatMap lowerChar

/-! ## 1. Letters and numbers -/

@[simp] theorem lowered_nil : lowered [] = [] := rfl

theorem lowered_cons_of_pos (h : isAlphanumeric c = true) (s : List Char) :
    lowered (c :: s) = lowerChar c ++ lowered s := by
  rw [lowered, List.filter_cons_of_pos h, List.flatMap_cons, lowered]

theorem lowered_cons_of_neg (h : isAlphanumeric c = false) (s : List Char) : lowered (c :: s) = lowered s := by
  rw [lowered, List.filter_cons_of_neg (by simp [h]), lowered]

theorem lowered_append (s t : List Char) : lowered (s ++ t) = lowered s ++ lowered t := by
  rw [lowered, List.filter_append, List.flatMap_append, lowered, lowered]

/-- Lower case never drops a letter. -/
theorem lowered_eq_nil_iff : lowered s = [] ↔ ∀ c ∈ s, isAlphanumeric c = false := by
  rw [lowered, List.flatMap_eq_nil_iff]
  constructor
  · intro h c hc
    by_contra halnum
    exact lowerChar_ne_nil c (h c (List.mem_filter.mpr ⟨hc, by simpa using halnum⟩))
  · intro h c hc
    obtain ⟨hmem, halnum⟩ := List.mem_filter.mp hc
    rw [h c hmem] at halnum
    cases halnum

theorem flatten_flush (word : List Char) : (flush word).flatten = word := by
  unfold flush
  split
  · rename_i h
    rw [List.isEmpty_iff.mp h]
    rfl
  · simp

theorem ne_nil_of_mem_flush {w : List Char} (h : w ∈ flush word) : w ≠ [] := by
  unfold flush at h
  split at h
  · cases h
  · rename_i hne
    rw [List.mem_singleton.mp h]
    exact fun hnil => hne (by rw [hnil]; rfl)

/-- **Nothing is lost and nothing is added**, where a word has been begun. -/
theorem flatten_splitWords (previous : Char) (word s : List Char) :
    (splitWords previous word s).flatten = word ++ lowered s := by
  fun_induction splitWords previous word s with
  | case1 previous word => rw [flatten_flush, lowered_nil, List.append_nil]
  | case2 previous word c rest hother ih =>
    rw [List.flatten_append, flatten_flush, ih, List.nil_append, lowered_cons_of_neg (by simpa using hother)]
  | case3 previous word c rest halnum hstarts ih =>
    rw [List.flatten_cons, ih, lowered_cons_of_pos (by simpa using halnum)]
  | case4 previous word c rest halnum hstarts ih =>
    rw [ih, lowered_cons_of_pos (by simpa using halnum), List.append_assoc]

theorem ne_nil_of_mem_splitWords (previous : Char) (word s : List Char) :
    ∀ w ∈ splitWords previous word s, w ≠ [] := by
  fun_induction splitWords previous word s with
  | case1 previous word => exact fun w hw => ne_nil_of_mem_flush hw
  | case2 previous word c rest hother ih =>
    intro w hw
    rcases List.mem_append.mp hw with hw | hw
    · exact ne_nil_of_mem_flush hw
    · exact ih w hw
  | case3 previous word c rest halnum hstarts ih =>
    have hword : word ≠ [] := by
      rintro rfl
      simp at hstarts
    intro w hw
    rcases List.mem_cons.mp hw with rfl | hw
    · exact hword
    · exact ih w hw
  | case4 previous word c rest halnum hstarts ih => exact ih

/-! ## 2. Separators -/

/-- Where no word has been begun, the character in front does not matter. -/
theorem splitWords_nil_congr (p q : Char) (s : List Char) : splitWords p [] s = splitWords q [] s := by
  cases s with
  | nil => rfl
  | cons c rest => simp [splitWords]

/-- Of what follows a character only the next one can end a word in front of it. -/
theorem startsWord_congr {rest other : List Char} (h : rest.head?.any isLowercase = other.head?.any isLowercase) :
    startsWord previous c rest = startsWord previous c other := by
  rw [startsWord, h, startsWord]

/-- **What stands behind a separator is split as if it stood alone.** -/
theorem splitWords_append_separator (hsep : isAlphanumeric sep = false) (back : List Char) :
    ∀ (front : List Char) (previous : Char) (word : List Char),
      splitWords previous word (front ++ sep :: back) =
        splitWords previous word (front ++ [sep]) ++ splitWords ' ' [] back
  | [], previous, word => by
      have hend : splitWords previous word [sep] = flush word :=
        (splitWords_separator hsep).trans (List.append_nil (flush word))
      rw [List.nil_append, List.nil_append, splitWords_separator hsep, hend, splitWords_nil_congr sep ' ' back]
  | c :: front, previous, word => by
      have ih := splitWords_append_separator hsep back front
      have hnext : startsWord previous c (front ++ sep :: back) = startsWord previous c (front ++ [sep]) :=
        startsWord_congr (by cases front <;> rfl)
      rw [List.cons_append, List.cons_append, splitWords, splitWords, hnext]
      split
      · rw [ih, List.append_assoc]
      · split
        · rw [ih, List.cons_append]
        · rw [ih]

/-- A separator at the end adds no word, and ends none early if it is not in lower case. -/
theorem splitWords_concat_separator (hsep : isAlphanumeric sep = false) (hlower : isLowercase sep = false) :
    ∀ (front : List Char) (previous : Char) (word : List Char),
      splitWords previous word (front ++ [sep]) = splitWords previous word front
  | [], previous, word => by
      rw [List.nil_append, splitWords_separator hsep]
      exact List.append_nil (flush word)
  | c :: front, previous, word => by
      have ih := splitWords_concat_separator hsep hlower front
      have hnext : startsWord previous c (front ++ [sep]) = startsWord previous c front :=
        startsWord_congr (by cases front <;> simp [hlower])
      rw [List.cons_append, splitWords, splitWords, hnext]
      simp only [ih]

/-! ## 3. Names -/

theorem flatten_words (name : String) : (words name).flatten = lowered name.toList :=
  flatten_splitWords ' ' [] name.toList

theorem ne_nil_of_mem_words : ∀ w ∈ words name, w ≠ [] := ne_nil_of_mem_splitWords ' ' [] name.toList

/-- A name has words if it has letters or numbers. -/
theorem words_ne_nil_iff : words name ≠ [] ↔ ∃ c ∈ name.toList, isAlphanumeric c = true := by
  have hempty : words name = [] ↔ lowered name.toList = [] := by
    rw [← flatten_words]
    constructor
    · intro h
      rw [h]
      rfl
    · intro h
      refine List.eq_nil_iff_forall_not_mem.mpr fun w hw => ne_nil_of_mem_words w hw ?_
      exact List.flatten_eq_nil_iff.mp h w hw
  rw [ne_eq, hempty, lowered_eq_nil_iff]
  simp

/-- **Words lose and invent nothing.** No word is empty, together they are the letters and numbers of the name in lower
case, and a separator stands between words: those behind it are the words of what stands behind it, and those in front
are the letters and numbers in front. -/
theorem words_lossless (name : String) :
    (∀ w ∈ words name, w ≠ []) ∧ (words name).flatten = lowered name.toList ∧
      (words name ≠ [] ↔ ∃ c ∈ name.toList, isAlphanumeric c = true) ∧
      ∀ front sep back, name.toList = front ++ sep :: back → isAlphanumeric sep = false →
        words name = words (String.ofList (front ++ [sep])) ++ words (String.ofList back) ∧
          (words (String.ofList (front ++ [sep]))).flatten = lowered front ∧
          (words (String.ofList back)).flatten = lowered back ∧
          (isLowercase sep = false → words (String.ofList (front ++ [sep])) = words (String.ofList front)) := by
  refine ⟨ne_nil_of_mem_words, flatten_words name, words_ne_nil_iff, fun front sep back hname hsep => ?_⟩
  refine ⟨?_, ?_, ?_, fun hlower => ?_⟩
  · rw [words, hname, splitWords_append_separator hsep, words, words, String.toList_ofList, String.toList_ofList]
  · rw [flatten_words, String.toList_ofList, lowered_append, lowered_cons_of_neg hsep, lowered_nil, List.append_nil]
  · rw [flatten_words, String.toList_ofList]
  · rw [words, words, String.toList_ofList, String.toList_ofList, splitWords_concat_separator hsep hlower]

/-- A name with an acronym, a number and two separators side by side. -/
theorem Sample.server_words :
    "getHTTP_-v2Server".toList = "getHTTP".toList ++ '_' :: "-v2Server".toList ∧
      words "getHTTP_-v2Server" = ["get".toList, "http".toList] ++ ["v2".toList, "server".toList] ∧
      (words "-v2Server").flatten = "v2server".toList ∧ words "getHTTP_" = words "getHTTP" := by
  have hname : "getHTTP_-v2Server".toList = "getHTTP".toList ++ '_' :: "-v2Server".toList := by decide
  obtain ⟨-, -, -, hsplit⟩ := words_lossless "getHTTP_-v2Server"
  obtain ⟨hwords, -, hback, hfront⟩ := hsplit _ _ _ hname (by decide)
  have hparts : words "getHTTP_" = ["get".toList, "http".toList] ∧
      words "-v2Server" = ["v2".toList, "server".toList] := by decide
  refine ⟨hname, ?_, ?_, ?_⟩
  · exact hwords.trans (congrArg₂ (· ++ ·) hparts.1 hparts.2)
  · exact hback.trans (by decide)
  · exact hfront (by decide)

end ServiceGraph.Naming
