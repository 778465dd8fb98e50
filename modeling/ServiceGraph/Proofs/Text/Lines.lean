import ServiceGraph.Text.Lines

/-!
Trimming and cutting texts.

White space at the ends of a line and empty lines at the ends of a text are dropped in the same way:
`dropEnds` drops what satisfies a test at both ends of a list. Dropping twice drops no more. Cutting a text that
was put together from lines gives the lines.
-/

namespace ServiceGraph.Text

/-! ## 1. Dropping at both ends -/

section Dropping

variable {α : Type} {p : α → Bool} {a : α}

/-- A list without the elements behind that satisfy a test. -/
def dropEnd (p : α → Bool) (l : List α) : List α := (l.reverse.dropWhile p).reverse

/-- A list without the elements at its two ends that satisfy a test. -/
def dropEnds (p : α → Bool) (l : List α) : List α := dropEnd p (l.dropWhile p)

theorem dropEnd_cons (a : α) (l : List α) :
    dropEnd p (a :: l) = if (dropEnd p l).isEmpty && p a then [] else a :: dropEnd p l := by
  unfold dropEnd
  rw [List.reverse_cons, List.dropWhile_append]
  cases hrest : l.reverse.dropWhile p with
  | nil => cases ha : p a <;> simp [List.dropWhile, ha]
  | cons d more => simp

theorem dropEnd_cons_of_neg (h : p a = false) (l : List α) : dropEnd p (a :: l) = a :: dropEnd p l := by
  simp [dropEnd_cons, h]

theorem dropEnd_append_of_neg (h : p a = false) (l : List α) : dropEnd p (l ++ [a]) = l ++ [a] := by
  unfold dropEnd
  simp [h]

theorem dropEnd_append_of_pos (h : p a = true) (l : List α) : dropEnd p (l ++ [a]) = dropEnd p l := by
  unfold dropEnd
  simp [h]

theorem dropEnd_dropEnd (l : List α) : dropEnd p (dropEnd p l) = dropEnd p l := by
  induction l with
  | nil => rfl
  | cons a l ih =>
    rw [dropEnd_cons]
    split
    · rfl
    · rename_i h
      rw [dropEnd_cons, ih, if_neg h]

theorem dropWhile_dropWhile (l : List α) : (l.dropWhile p).dropWhile p = l.dropWhile p := by
  induction l with
  | nil => rfl
  | cons a l ih =>
    cases ha : p a with
    | true => rw [List.dropWhile_cons_of_pos ha, ih]
    | false => simp [ha]

/-- The two ends do not get into each other's way. -/
theorem dropWhile_dropEnd (l : List α) : (dropEnd p l).dropWhile p = dropEnd p (l.dropWhile p) := by
  induction l with
  | nil => rfl
  | cons a l ih =>
    rw [dropEnd_cons]
    cases ha : p a with
    | false => simp [ha, dropEnd_cons]
    | true =>
      rw [List.dropWhile_cons_of_pos ha, ← ih]
      cases hrest : dropEnd p l with
      | nil => rfl
      | cons d more => simp [ha]

theorem dropEnds_dropEnd (l : List α) : dropEnds p (dropEnd p l) = dropEnds p l := by
  rw [dropEnds, dropWhile_dropEnd, dropEnd_dropEnd, dropEnds]

theorem dropEnds_dropWhile (l : List α) : dropEnds p (l.dropWhile p) = dropEnds p l := by
  rw [dropEnds, dropWhile_dropWhile, dropEnds]

theorem dropEnds_dropEnds (l : List α) : dropEnds p (dropEnds p l) = dropEnds p l := by
  change dropEnds p (dropEnd p (l.dropWhile p)) = _
  rw [dropEnds_dropEnd, dropEnds_dropWhile]

theorem dropEnds_cons (h : p a = true) (l : List α) : dropEnds p (a :: l) = dropEnds p l := by
  rw [dropEnds, List.dropWhile_cons_of_pos h, dropEnds]

theorem dropEnds_append (h : p a = true) (l : List α) : dropEnds p (l ++ [a]) = dropEnds p l := by
  rw [← dropEnds_dropEnd, dropEnd_append_of_pos h, dropEnds_dropEnd]

theorem dropEnds_of_all : ∀ {l : List α}, l.all p = true → dropEnds p l = []
  | [], _ => rfl
  | a :: l, h => by
      simp only [List.all_cons, Bool.and_eq_true] at h
      rw [dropEnds_cons h.1, dropEnds_of_all h.2]

/-- Nothing is dropped from a list with ends that fail the test. -/
theorem dropEnds_eq_self {l : List α} (hstart : ∀ a ∈ l.head?, p a = false)
    (hend : ∀ a ∈ l.getLast?, p a = false) : dropEnds p l = l := by
  cases l with
  | nil => rfl
  | cons a l =>
    have ha := hstart a rfl
    rw [dropEnds, List.dropWhile_cons_of_neg (by simp [ha])]
    have hsplit := List.dropLast_concat_getLast (l := a :: l) (by simp)
    rw [← hsplit]
    exact dropEnd_append_of_neg (hend _ (List.getLast?_eq_some_getLast (by simp))) _

theorem dropEnd_isPrefix (l : List α) : dropEnd p l <+: l := by
  have h := List.reverse_prefix.mpr (List.dropWhile_suffix (l := l.reverse) p)
  rwa [List.reverse_reverse] at h

theorem dropEnds_isInfix (l : List α) : dropEnds p l <:+: l :=
  (dropEnd_isPrefix _).isInfix.trans (List.dropWhile_suffix p).isInfix

theorem head_of_dropEnds {l : List α} (h : dropEnds p l = l) : ∀ a ∈ l.head?, p a = false := by
  intro a ha
  cases l with
  | nil => cases ha
  | cons b l =>
    cases ha
    cases hb : p a with
    | false => rfl
    | true =>
      have hshort := (dropEnds_isInfix (p := p) l).length_le
      rw [dropEnds_cons hb] at h
      rw [h, List.length_cons] at hshort
      omega

theorem last_of_dropEnds {l : List α} (h : dropEnds p l = l) : ∀ a ∈ l.getLast?, p a = false := by
  intro a ha
  obtain ⟨front, rfl⟩ := List.getLast?_eq_some_iff.mp ha
  cases hb : p a with
  | false => rfl
  | true =>
    have hshort := (dropEnds_isInfix (p := p) front).length_le
    rw [dropEnds_append hb] at h
    rw [h, List.length_append, List.length_singleton] at hshort
    omega

end Dropping

variable {s : List Char} {c : Char}

theorem dropLead_isSuffix (lead s : List Char) : dropLead lead s <:+ s := by
  unfold dropLead stripLead?
  split
  · exact List.drop_suffix _ _
  · exact List.suffix_rfl

theorem dropTail_isPrefix (tail s : List Char) : dropTail tail s <+: s := by
  unfold dropTail
  split
  · exact List.take_prefix _ _
  · exact List.prefix_rfl

/-! ## 2. Cutting -/

section Cutting

variable {p : Char → Bool}

theorem splitOnChar_of_none : ∀ {s : List Char}, (∀ c ∈ s, p c = false) → splitOnChar p s = [s]
  | [], _ => rfl
  | c :: s, h => by
      rw [splitOnChar, h c List.mem_cons_self, splitOnChar_of_none fun d hd => h d (List.mem_cons_of_mem _ hd)]
      rfl

/-- The first piece ends at the first separator. -/
theorem splitOnChar_append (hc : p c = true) : ∀ {s : List Char}, (∀ d ∈ s, p d = false) →
    ∀ rest, splitOnChar p (s ++ c :: rest) = s :: splitOnChar p rest
  | [], _, rest => by simp [splitOnChar, hc]
  | d :: s, h, rest => by
      rw [List.cons_append, splitOnChar, h d List.mem_cons_self,
        splitOnChar_append hc (fun e he => h e (List.mem_cons_of_mem _ he)) rest]
      rfl

theorem splitOnChar_intercalate (hc : p c = true) : ∀ {pieces : List (List Char)}, pieces ≠ [] →
    (∀ piece ∈ pieces, ∀ d ∈ piece, p d = false) → splitOnChar p ([c].intercalate pieces) = pieces
  | [piece], _, h => by
      rw [List.intercalate_singleton, splitOnChar_of_none (h piece List.mem_cons_self)]
  | piece :: next :: rest, _, h => by
      rw [List.intercalate_cons_cons, List.append_assoc, List.cons_append, List.nil_append,
        splitOnChar_append hc (h piece List.mem_cons_self),
        splitOnChar_intercalate hc (by simp) fun q hq => h q (List.mem_cons_of_mem _ hq)]

/-- Putting the pieces together again. -/
theorem intercalate_splitOnChar (h : ∀ d, p d = true → d = c) :
    ∀ s : List Char, [c].intercalate (splitOnChar p s) = s
  | [] => rfl
  | d :: s => by
      have ih := intercalate_splitOnChar h s
      unfold splitOnChar
      split
      · rename_i hd
        rw [List.intercalate_cons_of_ne_nil (splitOnChar_ne_nil p s), ih, h d hd]
        rfl
      · split
        · rename_i piece pieces heq
          rw [heq] at ih
          rw [List.intercalate_cons_cons_left, ih]
        · rename_i heq
          exact absurd heq (splitOnChar_ne_nil p s)

theorem not_of_mem_splitOnChar : ∀ {s piece : List Char}, piece ∈ splitOnChar p s →
    ∀ d ∈ piece, p d = false
  | [], piece, h, d, hd => by
      rw [splitOnChar, List.mem_singleton] at h
      subst h
      cases hd
  | c :: s, piece, h, d, hd => by
      unfold splitOnChar at h
      split at h
      · rcases List.mem_cons.mp h with rfl | h
        · cases hd
        · exact not_of_mem_splitOnChar h d hd
      · rename_i hc
        split at h
        · rename_i first pieces heq
          have ih : ∀ q ∈ first :: pieces, ∀ d ∈ q, p d = false := fun q hq =>
            not_of_mem_splitOnChar (heq ▸ hq)
          rcases List.mem_cons.mp h with rfl | h
          · rcases List.mem_cons.mp hd with rfl | hd
            · simpa using hc
            · exact ih first List.mem_cons_self d hd
          · exact ih piece (List.mem_cons_of_mem _ h) d hd
        · rename_i heq
          exact absurd heq (splitOnChar_ne_nil p s)

theorem prefix_of_splitOnChar : ∀ {s first : List Char} {pieces : List (List Char)},
    splitOnChar p s = first :: pieces → first <+: s
  | [], first, pieces, h => by
      cases h
      exact List.prefix_rfl
  | c :: s, first, pieces, h => by
      unfold splitOnChar at h
      split at h
      · cases h
        exact List.nil_prefix
      · split at h
        · rename_i heq
          cases h
          exact (List.prefix_cons_inj c).mpr (prefix_of_splitOnChar heq)
        · rename_i heq
          exact absurd heq (splitOnChar_ne_nil p s)

theorem infix_of_mem_splitOnChar : ∀ {s piece : List Char}, piece ∈ splitOnChar p s → piece <:+: s
  | [], piece, h => by
      rw [splitOnChar, List.mem_singleton] at h
      exact h ▸ List.infix_rfl
  | c :: s, piece, h => by
      have hbehind : s <:+: c :: s := (List.suffix_cons c s).isInfix
      unfold splitOnChar at h
      split at h
      · rcases List.mem_cons.mp h with rfl | h
        · exact List.nil_infix
        · exact (infix_of_mem_splitOnChar h).trans hbehind
      · split at h
        · rename_i first pieces heq
          rcases List.mem_cons.mp h with rfl | h
          · exact ((List.prefix_cons_inj c).mpr (prefix_of_splitOnChar heq)).isInfix
          · exact (infix_of_mem_splitOnChar (heq ▸ List.mem_cons_of_mem _ h)).trans hbehind
        · rename_i heq
          exact absurd heq (splitOnChar_ne_nil p s)

end Cutting

/-! ## 3. Lines -/

/-- The pieces between line feeds are the lines, but for an empty one at the end. -/
theorem map_trim_splitOnChar (s : List Char) :
    (splitOnChar (· = '\n') s).map trim = (lines s).map trim ∨
      (splitOnChar (· = '\n') s).map trim = (lines s).map trim ++ [[]] := by
  have hreturn : ∀ l : List Char, trim (dropTail ['\r'] l) = trim l := by
    intro l
    unfold dropTail
    split
    · rename_i h
      obtain ⟨front, rfl⟩ := List.isSuffixOf_iff_suffix.mp h
      have hblank : isWhiteSpace '\r' = true := by decide
      have htrim : trim (front ++ ['\r']) = trim front := dropEnds_append hblank front
      simp [htrim]
    · rfl
  have hpieces := List.dropLast_concat_getLast (splitOnChar_ne_nil (· = '\n') s)
  have hlast := List.getLast?_eq_some_getLast (splitOnChar_ne_nil (· = '\n') s)
  unfold lines
  dsimp only
  rw [hlast]
  generalize (splitOnChar (· = '\n') s).getLast _ = last at hpieces hlast
  rw [← hpieces, List.dropLast_concat, List.map_append, List.map_singleton]
  have hinit : ((splitOnChar (· = '\n') s).dropLast.map (dropTail ['\r'])).map trim =
      (splitOnChar (· = '\n') s).dropLast.map trim := by
    rw [List.map_map]
    exact List.map_congr_left fun l _ => hreturn l
  cases last with
  | nil => exact .inr (by rw [hinit]; rfl)
  | cons c rest => exact .inl (by rw [List.map_append, hinit, List.map_singleton])

theorem mem_intercalate {a : α} {sep : List α} : ∀ {ls : List (List α)}, a ∈ sep.intercalate ls →
    a ∈ sep ∨ ∃ l ∈ ls, a ∈ l
  | [], h => by simp at h
  | [l], h => by
      rw [List.intercalate_singleton] at h
      exact .inr ⟨l, List.mem_cons_self, h⟩
  | l :: next :: rest, h => by
      rw [List.intercalate_cons_cons, List.mem_append, List.mem_append] at h
      rcases h with (h | h) | h
      · exact .inr ⟨l, List.mem_cons_self, h⟩
      · exact .inl h
      · rcases mem_intercalate h with h | ⟨k, hk, ha⟩
        · exact .inl h
        · exact .inr ⟨k, List.mem_cons_of_mem _ hk, ha⟩

theorem piece_of_mem_lines {s l : List Char} (h : l ∈ lines s) :
    ∃ piece ∈ splitOnChar (· = '\n') s, l <+: piece := by
  have hended : l ∈ (splitOnChar (· = '\n') s).dropLast.map (dropTail ['\r']) →
      ∃ piece ∈ splitOnChar (· = '\n') s, l <+: piece := by
    intro hl
    obtain ⟨piece, hpiece, rfl⟩ := List.mem_map.mp hl
    exact ⟨piece, List.dropLast_subset _ hpiece, dropTail_isPrefix _ piece⟩
  unfold lines at h
  dsimp only at h
  split at h
  · exact hended h
  · rename_i last _ hlast
    rcases List.mem_append.mp h with h | h
    · exact hended h
    · exact ⟨last, List.mem_of_getLast? hlast, List.mem_singleton.mp h ▸ List.prefix_rfl⟩
  · exact hended h

theorem infix_of_mem_lines {s l : List Char} (h : l ∈ lines s) : l <:+: s := by
  obtain ⟨piece, hpiece, hprefix⟩ := piece_of_mem_lines h
  exact hprefix.isInfix.trans (infix_of_mem_splitOnChar hpiece)

theorem feed_of_mem_lines {s l : List Char} (h : l ∈ lines s) : ∀ c ∈ l, c ≠ '\n' := by
  obtain ⟨piece, hpiece, hfront⟩ := piece_of_mem_lines h
  exact fun c hc => by simpa using not_of_mem_splitOnChar hpiece c (hfront.subset hc)

end ServiceGraph.Text
