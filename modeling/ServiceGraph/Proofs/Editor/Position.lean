import ServiceGraph.Proofs.Editor.Tag
import ServiceGraph.Proofs.Text.LineStarts

/-!
Positions and byte offsets.

The position of an offset is reached by advancing over the characters that begin in front of it
(`Position.ofOffset_eq`). Each of them leads to a later position, so positions are in the order of their offsets. At the
places between two characters of a line, the way from offsets to positions and the way back undo each other
(`Position.ofOffset_spec`).
-/

namespace ServiceGraph.Editor

open Text (byteLength takeBytes? StartsLine)

variable {text s t front before behind line : List Char} {c : Char} {p q r : Position} {column i m n : Nat}

namespace Position

/-! ## 1. The order of positions -/

instance : LT Position := ⟨fun p q => p.line < q.line ∨ p.line = q.line ∧ p.character < q.character⟩

instance : LE Position := ⟨fun p q => p.line < q.line ∨ p.line = q.line ∧ p.character ≤ q.character⟩

theorem lt_iff : p < q ↔ p.line < q.line ∨ p.line = q.line ∧ p.character < q.character := Iff.rfl

theorem le_iff : p ≤ q ↔ p.line < q.line ∨ p.line = q.line ∧ p.character ≤ q.character := Iff.rfl

instance (p q : Position) : Decidable (p < q) := decidable_of_iff _ lt_iff.symm

theorem le_refl (p : Position) : p ≤ p := .inr ⟨rfl, Nat.le_refl _⟩

theorem lt_of_lt_of_le (hpq : p < q) (hqr : q ≤ r) : p < r := by
  rw [lt_iff] at hpq ⊢
  rw [le_iff] at hqr
  omega

theorem le_of_lt (h : p < q) : p ≤ q := by
  rw [lt_iff] at h
  rw [le_iff]
  omega

/-! ## 2. Advancing -/

theorem units_pos (c : Char) : 0 < units c := by
  unfold units
  split <;> omega

/-- A character takes no more units than bytes. -/
theorem units_le (c : Char) : units c ≤ c.utf8Size := by
  have hpos := c.utf8Size_pos
  unfold units
  split
  · exact hpos
  · rename_i hwide
    have hone : c.utf8Size ≠ 1 := by
      rw [Ne, Text.utf8Size_eq_one_iff]
      omega
    omega

/-- The position behind a text that starts at `p`. -/
def past (p : Position) (s : List Char) : Position := s.foldl advance p

@[simp] theorem past_nil (p : Position) : p.past [] = p := rfl

theorem past_cons (p : Position) (c : Char) (s : List Char) : p.past (c :: s) = (p.advance c).past s := rfl

theorem past_append (p : Position) (s t : List Char) : p.past (s ++ t) = (p.past s).past t := List.foldl_append

theorem lt_advance (p : Position) (c : Char) : p < p.advance c := by
  have hpos := units_pos c
  rw [lt_iff, advance]
  split
  · exact .inl (Nat.lt_succ_self _)
  · exact .inr ⟨rfl, Nat.lt_add_of_pos_right hpos⟩

theorem le_past (p : Position) (s : List Char) : p ≤ p.past s := by
  induction s generalizing p with
  | nil => exact le_refl p
  | cons c s ih => exact le_of_lt (lt_of_lt_of_le (lt_advance p c) (ih _))

theorem lt_past (p : Position) (c : Char) (s : List Char) : p < p.past (c :: s) :=
  lt_of_lt_of_le (lt_advance p c) (le_past _ s)

theorem width_cons (c : Char) (s : List Char) : width (c :: s) = units c + width s := rfl

/-- On one line a text is as wide as it takes units. -/
theorem past_of_plain (p : Position) (h : ∀ c ∈ s, c ≠ '\n') : p.past s = ⟨p.line, p.character + width s⟩ := by
  induction s generalizing p with
  | nil => rfl
  | cons c s ih =>
    rw [past_cons, ih _ fun d hd => h d (List.mem_cons_of_mem _ hd), advance, if_neg (h c List.mem_cons_self),
      width_cons, Nat.add_assoc]

theorem line_past (p : Position) (s : List Char) : (p.past s).line = p.line + s.count '\n' := by
  induction s generalizing p with
  | nil => rfl
  | cons c s ih =>
    rw [past_cons, ih, advance]
    by_cases hc : c = '\n'
    · subst hc
      rw [if_pos rfl, List.count_cons_self]
      show p.line + 1 + _ = _
      omega
    · rw [if_neg hc, List.count_cons_of_ne hc]

/-- In front of a line the position is its first one. -/
theorem past_of_startsLine (h : StartsLine text front i) : past ⟨0, 0⟩ front = ⟨i, 0⟩ := by
  have hline : (past ⟨0, 0⟩ front).line = i := by
    rw [line_past, h.count]
    exact Nat.zero_add i
  have hcharacter : (past ⟨0, 0⟩ front).character = 0 := by
    rcases List.eq_nil_or_concat front with rfl | ⟨init, c, rfl⟩
    · rfl
    · obtain rfl := h.ends c (by simp)
      rw [List.concat_eq_append, past_append]
      rfl
  show Position.mk (past ⟨0, 0⟩ front).line (past ⟨0, 0⟩ front).character = ⟨i, 0⟩
  rw [hline, hcharacter]

/-- There are no more lines and columns than bytes. -/
theorem past_le (p : Position) (s : List Char) :
    (p.past s).line + (p.past s).character ≤ p.line + p.character + byteLength s := by
  induction s generalizing p with
  | nil => exact Nat.le_refl _
  | cons c s ih =>
    have hstep : (p.advance c).line + (p.advance c).character ≤ p.line + p.character + c.utf8Size := by
      have hpos := c.utf8Size_pos
      have hunits := units_le c
      unfold advance
      split
      · show p.line + 1 + 0 ≤ _
        omega
      · show p.line + (p.character + units c) ≤ _
        omega
    have hrest := ih (p.advance c)
    rw [past_cons, Text.byteLength_cons]
    omega

/-! ## 3. The position of an offset -/

/-- The characters of a text that begin in front of an offset. -/
def begunBefore (offset : Nat) : List Char → List Char
  | [] => []
  | c :: rest => if offset = 0 then [] else c :: begunBefore (offset - c.utf8Size) rest

theorem begunBefore_zero (s : List Char) : begunBefore 0 s = [] := by
  cases s <;> rfl

theorem after_eq (p : Position) (offset : Nat) (s : List Char) :
    p.after offset s = p.past (begunBefore offset s) := by
  induction s generalizing p offset with
  | nil => rfl
  | cons c s ih =>
    rw [after, begunBefore]
    split
    · rfl
    · rw [ih, past_cons]

theorem ofOffset_eq (text : List Char) (offset : Nat) :
    ofOffset text offset = past ⟨0, 0⟩ (begunBefore offset text) := after_eq _ _ _

theorem begunBefore_append (front rest : List Char) (offset : Nat) :
    begunBefore (byteLength front + offset) (front ++ rest) = front ++ begunBefore offset rest := by
  induction front with
  | nil =>
    rw [List.nil_append, List.nil_append]
    congr 1
    exact Nat.zero_add offset
  | cons c front ih =>
    have hpos := c.utf8Size_pos
    have hrest : c.utf8Size + byteLength front + offset - c.utf8Size = byteLength front + offset := by omega
    rw [Text.byteLength_cons, List.cons_append, begunBefore, if_neg (by omega), hrest, ih, List.cons_append]

theorem begunBefore_isPrefix (offset : Nat) (s : List Char) : begunBefore offset s <+: s := by
  induction s generalizing offset with
  | nil => exact List.prefix_rfl
  | cons c s ih =>
    rw [begunBefore]
    split
    · exact List.nil_prefix
    · exact (List.prefix_cons_inj c).mpr (ih _)

theorem begunBefore_mono (h : m ≤ n) : ∀ s : List Char, begunBefore m s <+: begunBefore n s := by
  intro s
  induction s generalizing m n with
  | nil => exact List.prefix_rfl
  | cons c s ih =>
    rw [begunBefore, begunBefore]
    by_cases hm : m = 0
    · rw [if_pos hm]
      exact List.nil_prefix
    · rw [if_neg hm, if_neg (by omega)]
      exact (List.prefix_cons_inj c).mpr (ih (Nat.sub_le_sub_right h _))

/-- Between two characters the position is behind what stands in front. -/
theorem ofOffset_of_takeBytes? (h : takeBytes? n text = some front) : ofOffset text n = past ⟨0, 0⟩ front := by
  obtain ⟨⟨rest, rfl⟩, rfl⟩ := Text.takeBytes?_eq_some_iff.mp h
  have hfront := begunBefore_append front rest 0
  rw [Nat.add_zero, begunBefore_zero, List.append_nil] at hfront
  rw [ofOffset_eq, hfront]

/-- A larger offset has no smaller position. -/
theorem ofOffset_le (text : List Char) (h : m ≤ n) : ofOffset text m ≤ ofOffset text n := by
  obtain ⟨more, hmore⟩ := begunBefore_mono h text
  rw [ofOffset_eq, ofOffset_eq, ← hmore, past_append]
  exact le_past _ more

/-- It has a larger one, if the smaller offset is in front of a character. -/
theorem ofOffset_lt (h : m < n) (hcut : takeBytes? m text = some front) (hend : m < byteLength text) :
    ofOffset text m < ofOffset text n := by
  obtain ⟨⟨rest, rfl⟩, rfl⟩ := Text.takeBytes?_eq_some_iff.mp hcut
  cases rest with
  | nil =>
    rw [List.append_nil] at hend
    exact absurd hend (Nat.lt_irrefl _)
  | cons c rest =>
    obtain ⟨k, rfl⟩ := Nat.exists_eq_add_of_lt h
    rw [ofOffset_of_takeBytes? hcut, ofOffset_eq, Nat.add_assoc, begunBefore_append, past_append, begunBefore,
      if_neg (Nat.succ_ne_zero k)]
    exact lt_past _ c _

theorem ofOffset_bounded (text : List Char) (offset : Nat) :
    (ofOffset text offset).line + (ofOffset text offset).character ≤ byteLength text := by
  have hbound : _ ≤ 0 + 0 + _ := past_le ⟨0, 0⟩ (begunBefore offset text)
  have hlength := Text.byteLength_le_of_prefix (begunBefore_isPrefix offset text)
  rw [ofOffset_eq]
  omega

end Position

/-! ## 4. Columns -/

theorem width_append (s t : List Char) : width (s ++ t) = width s + width t := by
  induction s with
  | nil => exact (Nat.zero_add _).symm
  | cons c s ih => rw [List.cons_append, Position.width_cons, ih, Position.width_cons, Nat.add_assoc]

theorem width_le (s : List Char) : width s ≤ byteLength s := by
  induction s with
  | nil => exact Nat.le_refl _
  | cons c s ih =>
    rw [Position.width_cons, Text.byteLength_cons]
    exact Nat.add_le_add (Position.units_le c) ih

theorem cutAt_width (before behind : List Char) : cutAt (width before) (before ++ behind) = some (before, behind) := by
  induction before with
  | nil => cases behind <;> rfl
  | cons c before ih =>
    have hpos := Position.units_pos c
    rw [Position.width_cons, List.cons_append, cutAt, if_neg (by omega), Nat.add_sub_cancel_left, ih]
    rfl

/-- A column is past the end of a line exactly if the line is not as wide. -/
theorem cutAt_eq_none_iff : cutAt column line = none ↔ width line < column := by
  induction line generalizing column with
  | nil =>
    rw [cutAt]
    show (if column = 0 then _ else none) = none ↔ 0 < column
    split
    · simp_all
    · simp
      omega
  | cons c line ih =>
    have hpos := Position.units_pos c
    rw [cutAt, Position.width_cons]
    split
    · simp_all
    · rw [Option.map_eq_none_iff, ih]
      omega

/-- What is as wide as the column stands in front of it. -/
theorem offsetOf?_width (h : takeBytes? n line = some before) : offsetOf? (width before) line = some n := by
  obtain ⟨⟨behind, rfl⟩, rfl⟩ := Text.takeBytes?_eq_some_iff.mp h
  rw [offsetOf?_eq, cutAt_width]
  rfl

/-- No column of a line is beyond the length of the text. -/
theorem width_le_of_lineAt? (hline : lineAt? text i = some line) (h : before <+: line) :
    width before ≤ byteLength text := by
  obtain ⟨start, -, hbegins⟩ := Text.exists_startsLine hline
  have hlength := Text.byteLength_le_of_prefix (((List.prefix_append_right_inj start).mpr h).trans hbegins)
  have hwidth := width_le before
  rw [Text.byteLength_append] at hlength
  omega

theorem Position.ofOffset_of_line (hline : lineAt? text i = some line) (hstarts : StartsLine text front i)
    (h : takeBytes? n line = some before) :
    front ++ line <+: text ∧ ofOffset text (byteLength front + n) = ⟨i, width before⟩ := by
  obtain ⟨other, hother, hbegins⟩ := Text.exists_startsLine hline
  obtain rfl := hstarts.unique hother
  obtain ⟨⟨behind, rfl⟩, rfl⟩ := Text.takeBytes?_eq_some_iff.mp h
  have hplain : ∀ c ∈ before, c ≠ '\n' :=
    fun c hc => Text.feed_of_mem_lines (List.mem_of_getElem? hline) c (List.mem_append_left _ hc)
  have hcut : takeBytes? (byteLength front + byteLength before) text = some (front ++ before) := by
    rw [Text.takeBytes?_eq_some_iff, Text.byteLength_append]
    exact ⟨((List.prefix_append_right_inj front).mpr (List.prefix_append before behind)).trans hbegins, rfl⟩
  refine ⟨hbegins, ?_⟩
  rw [ofOffset_of_takeBytes? hcut, past_append, past_of_startsLine hstarts, past_of_plain _ hplain, Nat.zero_add]

/-! ## 5. Both ways -/

/-- A problem's range is not empty where its start is in front of a character. -/
theorem Problem.start_lt_stop {d : Diagnostic} (hcut : takeBytes? d.span.start text = some front)
    (hend : d.span.start < byteLength text) :
    (Problem.ofDiagnostic text d).range.start < (Problem.ofDiagnostic text d).range.stop := by
  refine Position.ofOffset_lt ?_ hcut hend
  split <;> omega

/-- **Positions and offsets.** In a text of less than 2^32 bytes the numbers of a position fit into 32 bits. Every line
starts behind a beginning of the text, and only one; an offset in the line, between two characters or at an end, has the
line's number and the width of what stands in front of it for its position, and the column of that width has the
offset. The positions are in the order of the offsets: none is larger than that of a larger offset, and one
in front of a character is smaller. So a problem that starts in front of a character has a range that is neither
empty nor reversed. -/
theorem Position.ofOffset_spec (text : List Char) (htext : byteLength text < 2 ^ 32) :
    (∀ n, (ofOffset text n).line < 2 ^ 32 ∧ (ofOffset text n).character < 2 ^ 32) ∧
    (∀ i line, lineAt? text i = some line → ∃! front, StartsLine text front i ∧ front ++ line <+: text ∧
      ∀ k before, takeBytes? k line = some before →
        ofOffset text (byteLength front + k) = ⟨i, width before⟩ ∧ offsetOf? (width before) line = some k) ∧
    (∀ m n, m < n → ofOffset text m ≤ ofOffset text n) ∧
    (∀ m n front, m < n → takeBytes? m text = some front → m < byteLength text →
      ofOffset text m < ofOffset text n) ∧
    ∀ d front, takeBytes? d.span.start text = some front → d.span.start < byteLength text →
      (Problem.ofDiagnostic text d).range.start < (Problem.ofDiagnostic text d).range.stop := by
  refine ⟨fun n => ?_, fun i line hline => ?_, fun m n h => ofOffset_le text (Nat.le_of_lt h),
    fun m n front h hcut hend => ofOffset_lt h hcut hend, fun d front hcut hend => Problem.start_lt_stop hcut hend⟩
  · have hbound := ofOffset_bounded text n
    omega
  · obtain ⟨front, hstarts, hbegins⟩ := Text.exists_startsLine hline
    refine ⟨front, ⟨hstarts, hbegins, fun k before hcut => ?_⟩, fun other hother => hother.1.unique hstarts⟩
    exact ⟨(ofOffset_of_line hline hstarts hcut).2, offsetOf?_width hcut⟩

/-- In a second line, behind characters of two and of four bytes. -/
theorem Sample.face_placed :
    byteLength "a\r\né😀b".toList < 2 ^ 32 ∧ lineAt? "a\r\né😀b".toList 1 = some "é😀b".toList ∧
      Position.ofOffset "a\r\né😀b".toList 9 = ⟨1, 3⟩ ∧ offsetOf? 3 "é😀b".toList = some 6 ∧
        Position.ofOffset "a\r\né😀b".toList 5 < Position.ofOffset "a\r\né😀b".toList 6 := by
  have htext : byteLength "a\r\né😀b".toList < 2 ^ 32 := by decide
  have hline : lineAt? "a\r\né😀b".toList 1 = some "é😀b".toList := by decide
  obtain ⟨-, hlines, -, hlt, -⟩ := Position.ofOffset_spec "a\r\né😀b".toList htext
  obtain ⟨front, ⟨hstarts, -, hplaces⟩, -⟩ := hlines 1 _ hline
  have hfront : StartsLine "a\r\né😀b".toList "a\r\n".toList 1 :=
    ⟨⟨"é😀b".toList, rfl⟩, by decide, fun c hc => (Option.some.inj hc).symm⟩
  obtain rfl := hstarts.unique hfront
  obtain ⟨hposition, hoffset⟩ := hplaces 6 "é😀".toList (by decide)
  exact ⟨htext, hline, hposition, hoffset, hlt 5 6 "a\r\né".toList (by decide) (by decide) (by decide)⟩

end ServiceGraph.Editor
