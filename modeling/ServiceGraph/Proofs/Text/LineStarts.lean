import ServiceGraph.Proofs.Text.Lines

/-!
Where the lines of a text start.

What stands in front of a line ends with the line feed of the line before it (`Text.StartsLine`), and there is one
such beginning of the text for each of its lines (`Text.exists_startsLine`).
-/

namespace ServiceGraph.Text

variable {s front : List Char}

/-- What stands in front of a line: a beginning of the text with as many line feeds as there are lines in front, the
last of them at its end. -/
structure StartsLine (text front : List Char) (i : Nat) : Prop where
  isPrefix : front <+: text
  count : front.count '\n' = i
  ends : ∀ c ∈ front.getLast?, c = '\n'

theorem startsLine_zero (s : List Char) : StartsLine s [] 0 :=
  ⟨List.nil_prefix, rfl, fun c hc => by cases hc⟩

/-- Only one beginning stands in front of a line. -/
theorem StartsLine.unique : ∀ {s front other : List Char} {i : Nat},
    StartsLine s front i → StartsLine s other i → front = other := by
  have hlonger : ∀ {front more : List Char}, (front ++ more).count '\n' = front.count '\n' →
      (∀ c ∈ (front ++ more).getLast?, c = '\n') → more = [] := by
    intro front more hcount hends
    rcases List.eq_nil_or_concat more with rfl | ⟨init, c, rfl⟩
    · rfl
    · obtain rfl := hends c (by simp)
      simp at hcount
  intro s front other i h h'
  rcases List.prefix_or_prefix_of_prefix h.isPrefix h'.isPrefix with ⟨more, rfl⟩ | ⟨more, rfl⟩
  · rw [hlonger (h'.count.trans h.count.symm) h'.ends, List.append_nil]
  · rw [hlonger (h.count.trans h'.count.symm) h.ends, List.append_nil]

theorem exists_startsLine_of_piece (i : Nat) : ∀ {s piece : List Char},
    (splitOnChar (· = '\n') s)[i]? = some piece → ∃ front, StartsLine s front i ∧ front ++ piece <+: s := by
  induction i with
  | zero =>
    intro s piece h
    refine ⟨[], startsLine_zero s, ?_⟩
    cases hpieces : splitOnChar (· = '\n') s with
    | nil => exact absurd hpieces (splitOnChar_ne_nil _ s)
    | cons first pieces =>
      rw [hpieces] at h
      cases h
      exact prefix_of_splitOnChar hpieces
  | succ i ih =>
    intro s piece h
    by_cases hfeed : '\n' ∈ s
    · obtain ⟨first, rest, rfl, hfirst⟩ := List.eq_append_cons_of_mem hfeed
      have hplain : ∀ d ∈ first, decide (d = '\n') = false := by
        intro d hd
        simpa using fun heq : d = '\n' => hfirst (heq ▸ hd)
      rw [splitOnChar_append (by simp) hplain, List.getElem?_cons_succ] at h
      obtain ⟨front, hstarts, hbegins⟩ := ih h
      refine ⟨first ++ '\n' :: front, ⟨?_, ?_, ?_⟩, ?_⟩
      · exact (List.prefix_append_right_inj first).mpr ((List.prefix_cons_inj '\n').mpr hstarts.isPrefix)
      · rw [List.count_append, List.count_eq_zero_of_not_mem hfirst, List.count_cons_self, hstarts.count]
        omega
      · intro c hc
        rw [List.getLast?_append, List.getLast?_cons] at hc
        cases hlast : front.getLast? with
        | none => simpa [hlast, eq_comm] using hc
        | some d => simpa [hlast, eq_comm, hstarts.ends d hlast] using hc
      · rw [List.append_assoc, List.cons_append]
        exact (List.prefix_append_right_inj first).mpr ((List.prefix_cons_inj '\n').mpr hbegins)
    · have hplain : ∀ d ∈ s, decide (d = '\n') = false := by
        intro d hd
        simpa using fun heq : d = '\n' => hfeed (heq ▸ hd)
      rw [splitOnChar_of_none hplain] at h
      simp at h

/-- A line is the beginning of the piece in its place. -/
theorem exists_piece_of_lines {i : Nat} {line : List Char} (h : (lines s)[i]? = some line) :
    ∃ piece, (splitOnChar (· = '\n') s)[i]? = some piece ∧ line <+: piece := by
  have hpieces := List.dropLast_concat_getLast (splitOnChar_ne_nil (· = '\n') s)
  have hlast := List.getLast?_eq_some_getLast (splitOnChar_ne_nil (· = '\n') s)
  unfold lines at h
  dsimp only at h
  rw [hlast] at h
  generalize (splitOnChar (· = '\n') s).getLast _ = last at hpieces hlast h
  generalize (splitOnChar (· = '\n') s).dropLast = init at hpieces h
  rw [← hpieces]
  have hended : (init.map (dropTail ['\r']))[i]? = some line →
      ∃ piece, (init ++ [last])[i]? = some piece ∧ line <+: piece := by
    intro h
    rw [List.getElem?_map] at h
    obtain ⟨piece, hpiece, rfl⟩ := Option.map_eq_some_iff.mp h
    exact ⟨piece, List.getElem?_append_left (List.getElem?_eq_some_iff.mp hpiece).1 ▸ hpiece,
      dropTail_isPrefix _ piece⟩
  cases last with
  | nil => exact hended h
  | cons c rest =>
    change (init.map (dropTail ['\r']) ++ [c :: rest])[i]? = some line at h
    by_cases hi : i < init.length
    · rw [List.getElem?_append_left (by simpa using hi)] at h
      exact hended h
    · rw [List.getElem?_append_right (by simpa using hi), List.length_map] at h
      exact ⟨line, by rwa [List.getElem?_append_right (Nat.le_of_not_lt hi)], List.prefix_rfl⟩

/-- **Every line has a start.** -/
theorem exists_startsLine {i : Nat} {line : List Char} (h : (lines s)[i]? = some line) :
    ∃ front, StartsLine s front i ∧ front ++ line <+: s := by
  obtain ⟨piece, hpiece, hbegins⟩ := exists_piece_of_lines h
  obtain ⟨front, hstarts, hfront⟩ := exists_startsLine_of_piece i hpiece
  exact ⟨front, hstarts, ((List.prefix_append_right_inj front).mpr hbegins).trans hfront⟩

end ServiceGraph.Text
