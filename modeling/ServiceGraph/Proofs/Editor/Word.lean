import ServiceGraph.Proofs.Editor.Position
import ServiceGraph.Proofs.Template

/-!
The word under a cursor.

The search goes by bytes (`wordByBytes?`): from the cursor's offset it walks to both sides over the bytes of word
characters, and cuts the line where it stops. No byte of a longer character is one of a word character, so it
stops between two characters, wherever it starts; the line can be cut there, and the word is the run of word characters
that the cursor touches (`wordByBytes?_of_run`). Every cursor that touches the run finds the same word
(`wordByBytes_spec`).
-/

namespace ServiceGraph.Editor

open Text (bytes byteLength takeBytes? sliceBytes?)

variable {text line before behind lead front tail word rest : List Char} {a run more : List UInt8} {b : UInt8}
  {c : Char} {p : Position} {column n : Nat}

/-! ## 1. Bytes of words -/

/-- A byte of a letter, a digit or an underscore. -/
def isWordByte (b : UInt8) : Bool :=
  (48 ≤ b && b ≤ 57) || (65 ≤ b && b ≤ 90) || (97 ≤ b && b ≤ 122) || b == 95

theorem isWordChar_of_not_ascii (h : 128 ≤ c.toNat) : isWordChar c = false := by
  by_contra hword
  have hascii := toNat_of_isWordChar (Bool.of_not_eq_false hword)
  omega

theorem isWordByte_of_not_ascii (h : 128 ≤ b.toNat) : isWordByte b = false := by
  simp only [isWordByte, Bool.or_eq_false_iff, Bool.and_eq_false_iff, decide_eq_false_iff_not,
    UInt8.le_iff_toNat_le, beq_eq_false_iff_ne]
  refine ⟨⟨⟨.inr ?_, .inr ?_⟩, .inr ?_⟩, ?_⟩
  · show ¬ b.toNat ≤ 57
    omega
  · show ¬ b.toNat ≤ 90
    omega
  · show ¬ b.toNat ≤ 122
    omega
  · rintro rfl
    exact absurd h (by decide)

theorem isWordByte_of_mem (h : b ∈ String.utf8EncodeChar c) : isWordByte b = isWordChar c := by
  rcases Text.utf8EncodeChar_cases c with ⟨hc, hbytes⟩ | ⟨hc, hbytes⟩
  · rw [hbytes, List.mem_singleton] at h
    rw [h]
    exact Naming.of_ascii c hc (by decide)
  · rw [isWordByte_of_not_ascii (hbytes b h), isWordChar_of_not_ascii hc]

theorem isAtByte_of_mem (h : b ∈ String.utf8EncodeChar c) : (b == 64) = (c == '@') := by
  rw [Bool.eq_iff_iff, beq_iff_eq, beq_iff_eq]
  have hascii : '@'.toNat < 128 := by decide
  exact Text.eq_ascii_iff_of_mem hascii h

/-- A word has as many columns as characters. -/
theorem width_of_word (h : ∀ c ∈ word, isWordChar c = true) : width word = word.length := by
  induction word with
  | nil => rfl
  | cons c word ih =>
    have hascii := toNat_of_isWordChar (h c List.mem_cons_self)
    have hunits : units c = 1 := if_pos (by omega)
    rw [Position.width_cons, ih fun d hd => h d (List.mem_cons_of_mem _ hd), hunits, List.length_cons, Nat.add_comm]

/-! ## 2. Runs -/

/-- A run of word characters between texts that do not go on with it. -/
structure IsRun (lead word rest : List Char) : Prop where
  word : ∀ c ∈ word, isWordChar c = true
  front : ∀ c ∈ lead.getLast?, isWordChar c = false
  behind : ∀ c ∈ rest.head?, isWordChar c = false

/-- Around every place there is a run, perhaps an empty one. -/
theorem exists_run (before behind : List Char) : ∃ lead front tail rest,
    before = lead ++ front ∧ behind = tail ++ rest ∧ IsRun lead (front ++ tail) rest := by
  refine ⟨(splitLastWord before).1, (splitLastWord before).2, behind.takeWhile isWordChar,
    behind.dropWhile isWordChar, (append_splitLastWord before).symm, List.takeWhile_append_dropWhile.symm, ?_, ?_, ?_⟩
  · intro c hc
    rcases List.mem_append.mp hc with hc | hc
    · exact isWordChar_of_mem_word c hc
    · exact List.mem_takeWhile_imp hc
  · intro c hc
    exact isWordChar_of_lead hc
  · intro c hc
    have hhead := List.head?_dropWhile_not isWordChar behind
    rw [hc] at hhead
    simpa using hhead

namespace IsRun

variable (h : IsRun lead word rest)

include h

theorem bytes_word : ∀ b ∈ bytes word, isWordByte b = true := by
  intro b hb
  obtain ⟨c, hc, hb⟩ := List.mem_flatMap.mp hb
  rw [isWordByte_of_mem hb, h.word c hc]

theorem bytes_front : ∀ b ∈ (bytes lead).getLast?, isWordByte b = false := by
  intro b hb
  obtain ⟨c, hc, hb⟩ := Text.exists_of_getLast?_bytes hb
  rw [isWordByte_of_mem hb, h.front c hc]

theorem bytes_behind : ∀ b ∈ (bytes rest).head?, isWordByte b = false := by
  intro b hb
  obtain ⟨c, hc, hb⟩ := Text.exists_of_head?_bytes hb
  rw [isWordByte_of_mem hb, h.behind c hc]

theorem width_word : width word = word.length := width_of_word h.word

end IsRun

/-! ## 3. Walking over bytes -/

/-- Where a walk to the front ends; none if it reads a byte that is not there. -/
def walkBack? (all : List UInt8) : Nat → Option Nat
  | 0 => some 0
  | n + 1 => all[n]?.bind fun b => if isWordByte b then walkBack? all n else some (n + 1)

/-- Where a walk over the bytes behind an offset ends. -/
def walkOn (offset : Nat) : List UInt8 → Nat
  | [] => offset
  | b :: more => if isWordByte b then walkOn (offset + 1) more else offset

theorem walkBack?_run (a more : List UInt8) (h : ∀ b ∈ run, isWordByte b = true) :
    walkBack? (a ++ (run ++ more)) (a.length + run.length) = walkBack? (a ++ (run ++ more)) a.length := by
  have hsteps : ∀ k ≤ run.length,
      walkBack? (a ++ (run ++ more)) (a.length + k) = walkBack? (a ++ (run ++ more)) a.length := by
    -- The walk takes one step for each byte of the run, from its end to its start.
    intro k
    induction k with
    | zero => intro _; rfl
    | succ k ih =>
      intro hk
      have hbyte : (a ++ (run ++ more))[a.length + k]? = some run[k] := by
        rw [List.getElem?_append_right (Nat.le_add_right _ _), Nat.add_sub_cancel_left,
          List.getElem?_append_left hk, List.getElem?_eq_getElem hk]
      rw [← Nat.add_assoc, walkBack?, hbyte, Option.bind_some, if_pos (h _ (List.getElem_mem hk)),
        ih (Nat.le_of_succ_le hk)]
  exact hsteps run.length (Nat.le_refl _)

theorem walkBack?_stop (more : List UInt8) (h : ∀ b ∈ a.getLast?, isWordByte b = false) :
    walkBack? (a ++ more) a.length = some a.length := by
  rcases List.eq_nil_or_concat a with rfl | ⟨init, b, rfl⟩
  · rfl
  · have hb : isWordByte b = false := h b (by simp)
    have hbyte : (init.concat b ++ more)[init.length]? = some b := by simp
    rw [List.length_concat, walkBack?, hbyte, Option.bind_some, hb]
    rfl

theorem walkOn_run (h : ∀ b ∈ run, isWordByte b = true) (hmore : ∀ b ∈ more.head?, isWordByte b = false)
    (offset : Nat) : walkOn offset (run ++ more) = offset + run.length := by
  induction run generalizing offset with
  | nil =>
    cases more with
    | nil => rfl
    | cons b more =>
      rw [List.nil_append, walkOn, hmore b rfl]
      rfl
  | cons b run ih =>
    rw [List.cons_append, walkOn, if_pos (h b List.mem_cons_self), ih fun d hd => h d (List.mem_cons_of_mem _ hd),
      List.length_cons]
    omega

namespace IsRun

variable (h : IsRun lead (front ++ tail) rest)

include h

/-- The walk to the front ends where the run begins. -/
theorem walkBack?_front :
    walkBack? (bytes (lead ++ (front ++ tail) ++ rest)) (byteLength (lead ++ front)) = some (byteLength lead) := by
  have hbytes : bytes (lead ++ (front ++ tail) ++ rest) = bytes lead ++ (bytes front ++ bytes (tail ++ rest)) := by
    simp
  have hword : ∀ b ∈ bytes front, isWordByte b = true := by
    intro b hb
    refine h.bytes_word b ?_
    rw [Text.bytes_append]
    exact List.mem_append_left _ hb
  rw [hbytes, Text.byteLength_append, ← Text.length_bytes, ← Text.length_bytes, walkBack?_run _ _ hword,
    walkBack?_stop _ h.bytes_front]

/-- The walk over what stands behind ends where the run does. -/
theorem walkOn_tail :
    walkOn (byteLength (lead ++ front)) ((bytes (lead ++ (front ++ tail) ++ rest)).drop (byteLength (lead ++ front))) =
      byteLength (lead ++ (front ++ tail)) := by
  have hbytes : bytes (lead ++ (front ++ tail) ++ rest) = bytes (lead ++ front) ++ (bytes tail ++ bytes rest) := by
    simp
  have hword : ∀ b ∈ bytes tail, isWordByte b = true := by
    intro b hb
    refine h.bytes_word b ?_
    rw [Text.bytes_append]
    exact List.mem_append_right _ hb
  rw [hbytes, ← Text.length_bytes (lead ++ front), List.drop_left, walkOn_run hword h.bytes_behind,
    ← Text.length_bytes, ← List.append_assoc, Text.bytes_append (lead ++ front), List.length_append]

end IsRun

/-- The word at a position, by the bytes of its line. None where a byte is read that is not there, or the line would be
cut inside a character. -/
def wordByBytes? (text : List Char) (p : Position) : Option (Option Word) :=
  match lineAt? text p.line with
  | none => some none
  | some line =>
    match offsetOf? p.character line with
    | none => some none
    | some offset =>
      (walkBack? (bytes line) offset).bind fun start =>
        let stop := walkOn offset ((bytes line).drop offset)
        if start = stop then some none
        else
          (sliceBytes? start stop line).bind fun word =>
            (if start = 0 then some false else ((bytes line)[start - 1]?).map (· == 64)).bind fun followsAt =>
              (takeBytes? start line).bind fun lead =>
                (takeBytes? stop line).map fun front =>
                  some ⟨⟨⟨p.line, width lead⟩, ⟨p.line, width front⟩⟩, word, followsAt⟩

/-! ## 4. What is found -/

/-- A run as the word of a line, unless it is empty. -/
def wordOfRun (line : Nat) (lead word : List Char) : Option Word :=
  if word = [] then none
  else some ⟨⟨⟨line, width lead⟩, ⟨line, width (lead ++ word)⟩⟩, word, lead.getLast? == some '@'⟩

theorem splitLastWord_append (hlead : ∀ c ∈ lead.getLast?, isWordChar c = false)
    (hfront : ∀ c ∈ front, isWordChar c = true) : splitLastWord (lead ++ front) = (lead, front) := by
  have hsplit := Template.takeWhile_append_of_stop lead.reverse
    (fun c hc => hfront c (List.mem_reverse.mp hc)) (fun c hc => hlead c (by rwa [List.head?_reverse] at hc))
  rw [splitLastWord, List.reverse_append, hsplit.1, hsplit.2, List.reverse_reverse, List.reverse_reverse]

/-- The byte in front of an offset is that of the character in front. -/
theorem followsAt_of_bytes (h : line = lead ++ word ++ rest) :
    (if byteLength lead = 0 then some false else ((bytes line)[byteLength lead - 1]?).map (· == 64)) =
      some (lead.getLast? == some '@') := by
  rcases List.eq_nil_or_concat lead with rfl | ⟨init, c, rfl⟩
  · rfl
  · have hne : byteLength (init.concat c) ≠ 0 := by
      rw [Ne, Text.byteLength_eq_zero_iff]
      simp
    have hbyte : (bytes line)[byteLength (init.concat c) - 1]? = (bytes (init.concat c)).getLast? := by
      rw [h, Text.bytes_append, Text.bytes_append, List.append_assoc, List.getLast?_eq_getElem?, Text.length_bytes,
        List.getElem?_append_left (by rw [Text.length_bytes]; omega)]
    rw [if_neg hne, hbyte, Text.getLast?_bytes_concat, Option.map_some, isAtByte_of_mem (List.getLast_mem _)]
    simp

/-- The word is the run that the cursor touches. -/
theorem wordAt?_of_run (hline : lineAt? text p.line = some line)
    (hcut : cutAt p.character line = some (lead ++ front, tail ++ rest)) (hrun : IsRun lead (front ++ tail) rest) :
    wordAt? text p = wordOfRun p.line lead (front ++ tail) := by
  have hsplit := splitLastWord_append hrun.front fun c hc => hrun.word c (List.mem_append_left _ hc)
  have htail := (Template.takeWhile_append_of_stop rest
    (fun c hc => hrun.word c (List.mem_append_right _ hc)) hrun.behind).1
  simp only [wordAt?, hline, hcut, Option.bind_eq_bind, Option.bind_some, hsplit, htail, wordOfRun,
    List.isEmpty_iff, width_append]

/-- **The search by bytes finds this run, and never fails.** -/
theorem wordByBytes?_of_run (hline : lineAt? text p.line = some line)
    (hcut : cutAt p.character line = some (lead ++ front, tail ++ rest)) (hrun : IsRun lead (front ++ tail) rest) :
    wordByBytes? text p = some (wordOfRun p.line lead (front ++ tail)) := by
  have hsplit : line = lead ++ (front ++ tail) ++ rest := by
    rw [append_of_cutAt hcut]
    simp
  have hoffset : offsetOf? p.character line = some (byteLength (lead ++ front)) := by
    rw [offsetOf?_eq, hcut, Option.map_some]
  have hstart := hrun.walkBack?_front
  have hstop := hrun.walkOn_tail
  have hempty : byteLength lead = byteLength (lead ++ (front ++ tail)) ↔ front ++ tail = [] := by
    rw [← Text.byteLength_eq_zero_iff, Text.byteLength_append lead]
    omega
  have hslice := Text.sliceBytes?_append lead (front ++ tail) rest
  have hlead : takeBytes? (byteLength lead) line = some lead := by
    rw [hsplit, List.append_assoc]
    exact Text.takeBytes?_append _ _
  have hfront : takeBytes? (byteLength (lead ++ (front ++ tail))) line = some (lead ++ (front ++ tail)) := by
    rw [hsplit]
    exact Text.takeBytes?_append _ _
  rw [← hsplit] at hstart hstop hslice
  simp only [wordByBytes?, hline, hoffset, hstart, hstop, Option.bind_some, hempty, hslice, hlead, hfront,
    followsAt_of_bytes hsplit, Option.map_some, wordOfRun]
  split <;> rfl

/-! ## 5. Cursors -/

/-- A cursor stands between two parts of its line. -/
def StandsBetween (text : List Char) (p : Position) (before behind : List Char) : Prop :=
  lineAt? text p.line = some (before ++ behind) ∧ offsetOf? p.character (before ++ behind) = some (byteLength before)

theorem standsBetween_iff :
    StandsBetween text p before behind ↔
      ∃ line, lineAt? text p.line = some line ∧ cutAt p.character line = some (before, behind) := by
  constructor
  · rintro ⟨hline, hoffset⟩
    refine ⟨_, hline, ?_⟩
    rw [offsetOf?_eq] at hoffset
    obtain ⟨⟨before', behind'⟩, hcut, hlength⟩ := Option.map_eq_some_iff.mp hoffset
    have hsplit := append_of_cutAt hcut
    have hbefore : takeBytes? (byteLength before) (before ++ behind) = some before' := by
      rw [hsplit, ← hlength]
      exact Text.takeBytes?_append _ _
    rw [Text.takeBytes?_append, Option.some.injEq] at hbefore
    subst hbefore
    rw [hcut, List.append_cancel_left hsplit]
  · rintro ⟨line, hline, hcut⟩
    obtain rfl := append_of_cutAt hcut
    exact ⟨hline, by rw [offsetOf?_eq, hcut, Option.map_some]⟩

/-- A cursor stands at one place of its line. -/
theorem StandsBetween.unique {before' behind' : List Char} (h : StandsBetween text p before behind)
    (h' : StandsBetween text p before' behind') : before = before' ∧ behind = behind' := by
  obtain ⟨line, hline, hcut⟩ := standsBetween_iff.mp h
  obtain ⟨line', hline', hcut'⟩ := standsBetween_iff.mp h'
  rw [hline, Option.some.injEq] at hline'
  subst hline'
  rw [hcut, Option.some.injEq, Prod.mk.injEq] at hcut'
  exact hcut'

/-- What a cursor finds is the run around its place. -/
theorem exists_run_of_cutAt (hline : lineAt? text p.line = some line)
    (hcut : cutAt p.character line = some (before, behind)) : ∃ lead front tail rest,
      before = lead ++ front ∧ behind = tail ++ rest ∧ IsRun lead (front ++ tail) rest ∧
        wordAt? text p = wordOfRun p.line lead (front ++ tail) ∧
          wordByBytes? text p = some (wordOfRun p.line lead (front ++ tail)) := by
  obtain ⟨lead, front, tail, rest, rfl, rfl, hrun⟩ := exists_run before behind
  exact ⟨lead, front, tail, rest, rfl, rfl, hrun, wordAt?_of_run hline hcut hrun, wordByBytes?_of_run hline hcut hrun⟩

/-- The search by bytes finds the word. -/
theorem wordByBytes?_eq (text : List Char) (p : Position) : wordByBytes? text p = some (wordAt? text p) := by
  cases hline : lineAt? text p.line with
  | none => simp [wordByBytes?, wordAt?, hline]
  | some line =>
    cases hcut : cutAt p.character line with
    | none => simp [wordByBytes?, wordAt?, hline, hcut, offsetOf?_eq]
    | some cut =>
      obtain ⟨lead, front, tail, rest, -, -, -, hword, hbytes⟩ := exists_run_of_cutAt hline hcut
      rw [hword, hbytes]

theorem wordOfRun_eq_some_iff {i : Nat} {w : Word} : wordOfRun i lead word = some w ↔
    word ≠ [] ∧ w = ⟨⟨⟨i, width lead⟩, ⟨i, width (lead ++ word)⟩⟩, word, lead.getLast? == some '@'⟩ := by
  unfold wordOfRun
  split
  · simp_all
  · simp_all [eq_comm]

theorem wordOfRun_eq_none_iff {i : Nat} : wordOfRun i lead word = none ↔ word = [] := by
  unfold wordOfRun
  split <;> simp_all

/-- Beside a place in a run there is a word character, unless the run is empty. -/
theorem IsRun.eq_nil_iff (h : IsRun lead (front ++ tail) rest) : front ++ tail = [] ↔
    (∀ c ∈ (lead ++ front).getLast?, isWordChar c = false) ∧ ∀ c ∈ (tail ++ rest).head?, isWordChar c = false := by
  constructor
  · intro hnil
    obtain ⟨rfl, rfl⟩ := List.append_eq_nil_iff.mp hnil
    rw [List.append_nil, List.nil_append]
    exact ⟨h.front, h.behind⟩
  · rintro ⟨hbefore, hbehind⟩
    rcases List.eq_nil_or_concat front with rfl | ⟨init, c, rfl⟩
    · cases tail with
      | nil => rfl
      | cons c tail =>
        have hword := h.word c (by simp)
        rw [hbehind c rfl] at hword
        cases hword
    · have hword := h.word c (by simp)
      rw [hbefore c (by simp)] at hword
      cases hword

/-- Every column of a run is one at which the line can be cut. -/
theorem IsRun.cutAt_of_inside (h : IsRun lead word rest) (hstart : width lead ≤ column)
    (hstop : column ≤ width (lead ++ word)) :
    ∃ front tail, front ++ tail = word ∧ cutAt column (lead ++ word ++ rest) = some (lead ++ front, tail ++ rest) := by
  -- All characters of a word are one column wide, so the cut is behind as many of them as there are columns.
  obtain ⟨k, rfl⟩ := Nat.exists_eq_add_of_le hstart
  have hk : k ≤ word.length := by
    rw [width_append, h.width_word] at hstop
    exact Nat.le_of_add_le_add_left hstop
  have hwidth : width (lead ++ word.take k) = width lead + k := by
    rw [width_append, width_of_word fun c hc => h.word c (List.mem_of_mem_take hc), List.length_take,
      Nat.min_eq_left hk]
  have hsplit : lead ++ word ++ rest = (lead ++ word.take k) ++ (word.drop k ++ rest) := by
    rw [← List.append_assoc, List.append_assoc lead (word.take k), List.take_append_drop]
  refine ⟨word.take k, word.drop k, List.take_append_drop k word, ?_⟩
  rw [← hwidth, hsplit]
  exact cutAt_width _ _

/-- A word is a run of its line, and the cursor that finds it touches it. -/
theorem exists_run_of_wordAt? {w : Word} (h : wordAt? text p = some w) : ∃ lead front tail rest,
    StandsBetween text p (lead ++ front) (tail ++ rest) ∧ IsRun lead w.text rest ∧ front ++ tail = w.text ∧
      wordOfRun p.line lead w.text = some w := by
  obtain ⟨line, hline, hfound⟩ := Option.bind_eq_some_iff.mp h
  obtain ⟨⟨before, behind⟩, hcut, -⟩ := Option.bind_eq_some_iff.mp hfound
  obtain ⟨lead, front, tail, rest, rfl, rfl, hrun, hword, -⟩ := exists_run_of_cutAt hline hcut
  rw [hword] at h
  have htext : front ++ tail = w.text := by
    obtain ⟨-, rfl⟩ := wordOfRun_eq_some_iff.mp h
    rfl
  rw [htext] at h hrun
  exact ⟨lead, front, tail, rest, standsBetween_iff.mpr ⟨line, hline, hcut⟩, hrun, htext, h⟩

/-- From every column of a word the same word is found. -/
theorem wordAt?_of_inside {w : Word} (h : wordAt? text p = some w) (hstart : w.range.start.character ≤ column)
    (hstop : column ≤ w.range.stop.character) : wordAt? text ⟨p.line, column⟩ = some w := by
  obtain ⟨lead, front, tail, rest, ⟨hline, -⟩, hrun, htext, hfound⟩ := exists_run_of_wordAt? h
  have hrange : w.range = ⟨⟨p.line, width lead⟩, ⟨p.line, width (lead ++ w.text)⟩⟩ :=
    congrArg Word.range (wordOfRun_eq_some_iff.mp hfound).2
  have hsplit : lead ++ front ++ (tail ++ rest) = lead ++ w.text ++ rest := by
    rw [← htext]
    simp
  rw [hrange] at hstart hstop
  obtain ⟨front', tail', htext', hcut⟩ := hrun.cutAt_of_inside hstart hstop
  rw [hsplit] at hline
  rw [← htext'] at hrun hfound
  exact (wordAt?_of_run (p := ⟨p.line, column⟩) hline (htext' ▸ hcut) hrun).trans hfound

/-- No word is found where there is no line, past the end of the line, and where no neighbour of the cursor is
a word character. -/
theorem wordAt?_eq_none_iff : wordAt? text p = none ↔
    lineAt? text p.line = none ∨ (∃ line, lineAt? text p.line = some line ∧ width line < p.character) ∨
      ∃ before behind, StandsBetween text p before behind ∧ (∀ c ∈ before.getLast?, isWordChar c = false) ∧
        ∀ c ∈ behind.head?, isWordChar c = false := by
  cases hline : lineAt? text p.line with
  | none => simp [wordAt?, hline]
  | some line =>
    cases hcut : cutAt p.character line with
    | none =>
      have hpast := cutAt_eq_none_iff.mp hcut
      have hnone : wordAt? text p = none := by simp [wordAt?, hline, hcut]
      exact iff_of_true hnone (.inr (.inl ⟨line, rfl, hpast⟩))
    | some cut =>
      obtain ⟨before, behind⟩ := cut
      have hstands := standsBetween_iff.mpr ⟨line, hline, hcut⟩
      obtain ⟨lead, front, tail, rest, rfl, rfl, hrun, hword, -⟩ := exists_run_of_cutAt hline hcut
      rw [hword, wordOfRun_eq_none_iff, hrun.eq_nil_iff]
      constructor
      · intro hbeside
        exact .inr (.inr ⟨_, _, hstands, hbeside⟩)
      · rintro (hnone | ⟨line', hline', hpast⟩ | ⟨before, behind, hstands', hbeside⟩)
        · cases hnone
        · cases hline'
          rw [cutAt_eq_none_iff.mpr hpast] at hcut
          cases hcut
        · obtain ⟨rfl, rfl⟩ := hstands'.unique hstands
          exact hbeside

/-! ## 6. The whole search -/

/-- **The word under a cursor.** The search by bytes never fails, that is it cuts the line at no place inside a
character, and it finds no word exactly if there is no line, the column is past the end of the line, or none of the
cursor's two neighbours is a word character. What it finds is the run of word characters that the cursor touches, with
the columns of its two ends for the range, none of them beyond the length of the text, and it says whether an `@` stands
right before the run. From every column between these ends, and from the ends, the same word is found. -/
theorem wordByBytes_spec (text : List Char) (p : Position) :
    wordByBytes? text p = some (wordAt? text p) ∧
    (wordAt? text p = none ↔
      lineAt? text p.line = none ∨ (∃ line, lineAt? text p.line = some line ∧ width line < p.character) ∨
        ∃ before behind, StandsBetween text p before behind ∧ (∀ c ∈ before.getLast?, isWordChar c = false) ∧
          ∀ c ∈ behind.head?, isWordChar c = false) ∧
    ∀ w, wordAt? text p = some w →
      (∃ lead front tail rest, StandsBetween text p (lead ++ front) (tail ++ rest) ∧ front ++ tail = w.text ∧
        w.text ≠ [] ∧ IsRun lead w.text rest ∧
          w.range = ⟨⟨p.line, width lead⟩, ⟨p.line, width (lead ++ w.text)⟩⟩ ∧
            (w.followsAt = true ↔ lead.getLast? = some '@')) ∧
      w.range.start.character < w.range.stop.character ∧ w.range.stop.character ≤ byteLength text ∧
      ∀ column, w.range.start.character ≤ column → column ≤ w.range.stop.character →
        wordAt? text ⟨p.line, column⟩ = some w := by
  refine ⟨wordByBytes?_eq text p, wordAt?_eq_none_iff, fun w hw => ?_⟩
  obtain ⟨lead, front, tail, rest, hstands, hrun, htext, hfound⟩ := exists_run_of_wordAt? hw
  obtain ⟨hne, hparts⟩ := wordOfRun_eq_some_iff.mp hfound
  have hrange : w.range = ⟨⟨p.line, width lead⟩, ⟨p.line, width (lead ++ w.text)⟩⟩ := congrArg Word.range hparts
  have hfollows : w.followsAt = (lead.getLast? == some '@') := congrArg Word.followsAt hparts
  refine ⟨⟨lead, front, tail, rest, hstands, htext, hne, hrun, hrange, ?_⟩, ?_, ?_,
    fun column => wordAt?_of_inside hw⟩
  · rw [hfollows, beq_iff_eq]
  · have hpos := List.length_pos_of_ne_nil hne
    have hwidth := hrun.width_word
    rw [hrange]
    show width lead < width (lead ++ w.text)
    rw [width_append]
    omega
  · rw [hrange]
    refine width_le_of_lineAt? hstands.1 ⟨rest, ?_⟩
    rw [← htext]
    simp

/-- In a tag behind a character of two bytes, from the column behind the word. -/
theorem Sample.bound_named :
    ∃ w, wordAt? "x\né @min".toList ⟨1, 6⟩ = some w ∧ w.text = "min".toList ∧ w.followsAt = true ∧
      wordByBytes? "x\né @min".toList ⟨1, 6⟩ = some (some w) ∧ wordAt? "x\né @min".toList ⟨1, 3⟩ = some w ∧
        wordAt? "x\né @min".toList ⟨1, 1⟩ = none := by
  have hword : wordAt? "x\né @min".toList ⟨1, 6⟩ = some ⟨⟨⟨1, 3⟩, ⟨1, 6⟩⟩, "min".toList, true⟩ := by
    decide +kernel
  obtain ⟨hsearch, -, hfound⟩ := wordByBytes_spec "x\né @min".toList ⟨1, 6⟩
  obtain ⟨-, -, -, hinside⟩ := hfound _ hword
  obtain ⟨-, hnone, -⟩ := wordByBytes_spec "x\né @min".toList ⟨1, 1⟩
  have hbeside : StandsBetween "x\né @min".toList ⟨1, 1⟩ "é".toList " @min".toList := ⟨by decide, by decide⟩
  refine ⟨_, hword, rfl, rfl, hsearch.trans (congrArg some hword), hinside 3 (Nat.le_refl _) (by decide), ?_⟩
  refine hnone.mpr (.inr (.inr ⟨_, _, hbeside, ?_, ?_⟩))
  · intro c hc
    cases hc
    decide
  · intro c hc
    cases hc
    decide

end ServiceGraph.Editor
