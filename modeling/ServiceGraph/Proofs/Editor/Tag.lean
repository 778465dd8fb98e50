import Mathlib.Data.List.TakeWhile
import ServiceGraph.Editor.Session
import ServiceGraph.Proofs.Emission.Names
import ServiceGraph.Proofs.Text.Offsets

/-!
Whether a cursor stands in a tag.

It does exactly if the text before it on its line ends with an `@` and word characters. The search for the
`@` goes by bytes (`tagByBytes?`): it looks for the last character of no word and cuts the text one byte
behind the start of that character. Where the character takes several bytes this is no place to cut at, and there is no
answer. The position's answer is that of the search (`tagPositionAt_eq`), and `tagByBytes_spec` says what
it is.
-/

namespace ServiceGraph.Editor

variable {text before s : List Char} {c : Char} {p : Position}

/-! ## 1. Columns -/

theorem append_of_cutAt {line before behind : List Char} {column : Nat}
    (h : cutAt column line = some (before, behind)) : line = before ++ behind := by
  induction line generalizing column before with
  | nil =>
    rw [cutAt] at h
    split at h <;> cases h
    rfl
  | cons c rest ih =>
    rw [cutAt] at h
    split at h
    · cases h
      rfl
    · obtain ⟨⟨front, back⟩, hcut, heq⟩ := Option.map_eq_some_iff.mp h
      cases heq
      rw [List.cons_append, ih hcut]

/-- The byte offset of a column, where `units` and `offset` are those of the place reached so far: the first
character at or behind the column has it. -/
def offsetFrom? (column units offset : Nat) : List Char → Option Nat
  | [] => if column ≤ units then some offset else none
  | c :: rest =>
    if column ≤ units then some offset
    else offsetFrom? column (units + Editor.units c) (offset + c.utf8Size) rest

/-- The byte offset of a column in a line; none past its end. -/
def offsetOf? (column : Nat) (line : List Char) : Option Nat := offsetFrom? column 0 0 line

theorem offsetFrom?_eq (column : Nat) : ∀ (line : List Char) (units offset : Nat),
    offsetFrom? column units offset line =
      (cutAt (column - units) line).map fun cut => offset + Text.byteLength cut.1
  | [], units, offset => by
      rw [offsetFrom?, cutAt]
      by_cases h : column ≤ units
      · rw [if_pos h, if_pos (by omega)]
        rfl
      · rw [if_neg h, if_neg (by omega)]
        rfl
  | c :: rest, units, offset => by
      rw [offsetFrom?, cutAt]
      by_cases h : column ≤ units
      · rw [if_pos h, if_pos (by omega)]
        rfl
      · rw [if_neg h, if_neg (by omega), offsetFrom?_eq column rest, Option.map_map, Nat.sub_add_eq]
        congr 1
        funext cut
        exact Nat.add_assoc _ _ _

/-- A column's offset is the length of what stands in front of it. -/
theorem offsetOf?_eq (column : Nat) (line : List Char) :
    offsetOf? column line = (cutAt column line).map fun cut => Text.byteLength cut.1 := by
  rw [offsetOf?, offsetFrom?_eq]
  simp

/-- What stands before a cursor on its line, if there is the line. Past the end of a line it is all of it. -/
def beforeCursor? (text : List Char) (p : Position) : Option (List Char) :=
  (lineAt? text p.line).map fun line => ((cutAt p.character line).map (·.1)).getD line

/-- A line can be cut at any column. -/
theorem takeBytes?_offsetOf? (column : Nat) (line : List Char) :
    Text.takeBytes? ((offsetOf? column line).getD (Text.byteLength line)) line =
      some (((cutAt column line).map (·.1)).getD line) := by
  rw [offsetOf?_eq]
  cases hcut : cutAt column line with
  | none =>
    have h := Text.takeBytes?_append line []
    rwa [List.append_nil] at h
  | some cut =>
    obtain ⟨before, behind⟩ := cut
    have h := Text.takeBytes?_append before behind
    rwa [← append_of_cutAt hcut] at h

/-! ## 2. The last word -/

/-- A text ends with a character and a word behind it, perhaps an empty one. -/
def EndsIn (c : Char) (s : List Char) : Prop :=
  ∃ lead word, s = lead ++ c :: word ∧ ∀ d ∈ word, isWordChar d = true

theorem append_splitLastWord (s : List Char) : (splitLastWord s).1 ++ (splitLastWord s).2 = s := by
  simp only [splitLastWord]
  rw [← List.reverse_append, List.takeWhile_append_dropWhile, List.reverse_reverse]

theorem isWordChar_of_mem_word : ∀ d ∈ (splitLastWord s).2, isWordChar d = true := by
  intro d hd
  exact List.mem_takeWhile_imp (List.mem_reverse.mp hd)

/-- The character before the last word belongs to no word. -/
theorem isWordChar_of_lead (h : (splitLastWord s).1.getLast? = some c) : isWordChar c = false := by
  rw [splitLastWord, List.getLast?_reverse] at h
  have hhead := List.head?_dropWhile_not isWordChar s.reverse
  rw [h] at hhead
  simpa using hhead

theorem isWordChar_at : isWordChar '@' = false := by decide

theorem toNat_of_isWordChar (h : isWordChar c = true) : c.toNat < 128 := by
  rcases Bool.or_eq_true_iff.mp h with halnum | hunderscore
  · exact Naming.toNat_of_isAlphanum halnum
  · rw [of_decide_eq_true hunderscore]
    decide

theorem isWordChar_of_wide (h : 1 < c.utf8Size) : isWordChar c = false := by
  cases hword : isWordChar c with
  | false => rfl
  | true =>
    have hascii := toNat_of_isWordChar hword
    have hone := Text.utf8Size_eq_one_iff.mpr hascii
    omega

/-- A text ends in a character of no word exactly if this is the one before its last word. -/
theorem endsIn_iff (hc : isWordChar c = false) : EndsIn c s ↔ (splitLastWord s).1.getLast? = some c := by
  constructor
  · rintro ⟨lead, word, rfl, hword⟩
    have hreverse : (lead ++ c :: word).reverse = word.reverse ++ c :: lead.reverse := by simp
    rw [splitLastWord, List.getLast?_reverse, hreverse,
      List.dropWhile_append_of_pos fun d hd => hword d (List.mem_reverse.mp hd),
      List.dropWhile_cons_of_neg (by simp [hc])]
    rfl
  · intro h
    obtain ⟨lead, hlead⟩ := List.getLast?_eq_some_iff.mp h
    refine ⟨lead, (splitLastWord s).2, ?_, isWordChar_of_mem_word⟩
    have hs := append_splitLastWord s
    rw [hlead, List.append_assoc, List.singleton_append] at hs
    exact hs.symm

/-! ## 3. The search -/

/-- Whether a position is in a tag, by the bytes of its line: what stands before the cursor is searched for the
last character of no word, and cut one byte behind the start of that character. None where the line would
be cut inside a character. -/
def tagByBytes? (text : List Char) (p : Position) : Option Bool :=
  match lineAt? text p.line with
  | none => some false
  | some line =>
    (Text.takeBytes? ((offsetOf? p.character line).getD (Text.byteLength line)) line).bind fun before =>
      let start := ((Text.lastOffset? (!isWordChar ·) before).map (· + 1)).getD 0
      (Text.takeBytes? start before).map fun lead => lead.getLast? == some '@'

/-- The answer of the search. -/
def TagPosition.ofSearch : Option Bool → TagPosition
  | none => .undecided
  | some true => .inside
  | some false => .outside

/-- The search in what stands before the cursor. -/
theorem ofSearch_before (before : List Char) :
    TagPosition.ofSearch ((Text.takeBytes? (((Text.lastOffset? (!isWordChar ·) before).map (· + 1)).getD 0)
      before).map fun lead => lead.getLast? == some '@') = tagPositionAfter before := by
  have hbefore := append_splitLastWord before
  unfold tagPositionAfter
  cases hlast : (splitLastWord before).1.getLast? with
  | none =>
    rw [List.getLast?_eq_none_iff] at hlast
    rw [hlast, List.nil_append] at hbefore
    have hnone : Text.lastOffset? (!isWordChar ·) before = none :=
      Text.lastOffset?_of_none fun d hd => by simp [isWordChar_of_mem_word d (hbefore.symm ▸ hd)]
    rw [hnone]
    simp [Text.takeBytes?_zero, TagPosition.ofSearch]
  | some c =>
    have hc := isWordChar_of_lead hlast
    obtain ⟨lead, hlead⟩ := List.getLast?_eq_some_iff.mp hlast
    rw [hlead, List.append_assoc, List.singleton_append] at hbefore
    have hoffset : Text.lastOffset? (!isWordChar ·) before = some (Text.byteLength lead) := by
      rw [← hbefore]
      exact Text.lastOffset?_append (by simp [hc]) (fun d hd => by simp [isWordChar_of_mem_word d hd]) lead
    simp only [hoffset, Option.map_some, Option.getD_some]
    by_cases hwide : 1 < c.utf8Size
    · rw [if_pos hwide, ← hbefore, Text.takeBytes?_inside (by decide) hwide]
      rfl
    · have hone : c.utf8Size = 1 := by
        have hpos := c.utf8Size_pos
        omega
      have hcut : Text.takeBytes? (Text.byteLength lead + 1) before = some (lead ++ [c]) := by
        have h := Text.takeBytes?_append (lead ++ [c]) (splitLastWord before).2
        rw [List.append_assoc, List.singleton_append, hbefore, Text.byteLength_append, Text.byteLength_cons,
          hone] at h
        exact h
      rw [if_neg hwide, hcut, Option.map_some, List.getLast?_append]
      by_cases hat : c = '@'
      · simp [hat, TagPosition.ofSearch]
      · have hbeq : (some c == some '@') = false := by simpa using hat
        simp [hat, hbeq, TagPosition.ofSearch]

/-- **A position's answer is that of the search by bytes.** -/
theorem tagPositionAt_eq (text : List Char) (p : Position) :
    tagPositionAt text p = .ofSearch (tagByBytes? text p) := by
  unfold tagPositionAt tagByBytes?
  cases lineAt? text p.line with
  | none => rfl
  | some line =>
    simp only [takeBytes?_offsetOf?, Option.bind_some]
    exact (ofSearch_before _).symm

/-! ## 4. What is found -/

theorem tagPositionAt_of_before (h : beforeCursor? text p = some before) :
    tagPositionAt text p = tagPositionAfter before := by
  obtain ⟨line, hline, rfl⟩ := Option.map_eq_some_iff.mp h
  simp only [tagPositionAt, hline]

theorem tagPositionAt_of_none (h : beforeCursor? text p = none) : tagPositionAt text p = .outside := by
  rw [beforeCursor?, Option.map_eq_none_iff] at h
  simp only [tagPositionAt, h]

theorem tagPositionAfter_eq_inside_iff : tagPositionAfter s = .inside ↔ EndsIn '@' s := by
  rw [endsIn_iff isWordChar_at, tagPositionAfter]
  cases (splitLastWord s).1.getLast? with
  | none => simp
  | some c =>
    by_cases hwide : 1 < c.utf8Size
    · have hne : c ≠ '@' := by
        rintro rfl
        exact absurd hwide (by decide)
      simp [hwide, hne]
    · simp only [if_neg hwide, Option.some.injEq]
      by_cases hat : c = '@' <;> simp [hat]

theorem tagPositionAfter_eq_undecided_iff :
    tagPositionAfter s = .undecided ↔ ∃ c, 1 < c.utf8Size ∧ EndsIn c s := by
  constructor
  · intro h
    unfold tagPositionAfter at h
    split at h
    · cases h
    · rename_i c hlast
      split at h
      · rename_i hwide
        exact ⟨c, hwide, (endsIn_iff (isWordChar_of_wide hwide)).mpr hlast⟩
      · split at h <;> cases h
  · rintro ⟨c, hwide, hends⟩
    rw [endsIn_iff (isWordChar_of_wide hwide)] at hends
    simp only [tagPositionAfter, hends, if_pos hwide]

theorem tagPositionAt_eq_inside_iff :
    tagPositionAt text p = .inside ↔ ∃ before, beforeCursor? text p = some before ∧ EndsIn '@' before := by
  cases hbefore : beforeCursor? text p with
  | none => simp [tagPositionAt_of_none hbefore]
  | some before => simp [tagPositionAt_of_before hbefore, tagPositionAfter_eq_inside_iff]

theorem tagPositionAt_eq_undecided_iff : tagPositionAt text p = .undecided ↔
    ∃ before c, beforeCursor? text p = some before ∧ 1 < c.utf8Size ∧ EndsIn c before := by
  cases hbefore : beforeCursor? text p with
  | none => simp [tagPositionAt_of_none hbefore]
  | some before => simp [tagPositionAt_of_before hbefore, tagPositionAfter_eq_undecided_iff]

/-- A word follows an `@` exactly if what stands before the cursor ends with one and word characters. -/
theorem followsAt_iff {w : Word} (h : wordAt? text p = some w) :
    w.followsAt = true ↔ ∃ before, beforeCursor? text p = some before ∧ EndsIn '@' before := by
  unfold wordAt? at h
  obtain ⟨line, hline, h⟩ := Option.bind_eq_some_iff.mp h
  obtain ⟨⟨before, behind⟩, hcut, h⟩ := Option.bind_eq_some_iff.mp h
  have hbefore : beforeCursor? text p = some before := by simp [beforeCursor?, hline, hcut]
  dsimp only at h
  split at h
  · cases h
  · cases h
    simp [hbefore, endsIn_iff isWordChar_at]

/-- A completion fails exactly where there is no answer. -/
theorem Session.answer_complete_eq_failure_iff (session : Session) (address : String) (p : Position) :
    (session.handle (.complete address p)).2.answer = .failure ↔
      ∃ d, session.get? address = some d ∧ tagByBytes? d.text.toList p = none := by
  have hfails : ∀ d : Document, d.completions? p = none ↔ tagByBytes? d.text.toList p = none := by
    intro d
    rw [Document.completions?, tagPositionAt_eq]
    rcases tagByBytes? d.text.toList p with - | - | - <;> simp [TagPosition.ofSearch]
  simp only [Session.handle]
  cases session.get? address with
  | none => simp
  | some d =>
    cases hall : d.completions? p with
    | none => simpa [hall] using (hfails d).mp hall
    | some all =>
      have hanswer : tagByBytes? d.text.toList p ≠ none := fun hnone => by
        rw [(hfails d).mpr hnone] at hall
        cases hall
      simpa [hall] using hanswer

/-- **Where the cursor is in a tag.** There is no answer, since the line would be cut inside a character, exactly
if the text before the cursor ends with a character of several bytes and word characters; the answer is yes exactly
if it ends with an `@` and word characters, and no in every other case, also where there is no line. An answer
says of a word at the position whether an `@` stands before it. -/
theorem tagByBytes_spec (text : List Char) (p : Position) :
    tagPositionAt text p = .ofSearch (tagByBytes? text p) ∧
    (tagByBytes? text p = none ↔
      ∃ before c, beforeCursor? text p = some before ∧ 1 < c.utf8Size ∧ EndsIn c before) ∧
    (tagByBytes? text p = some true ↔ ∃ before, beforeCursor? text p = some before ∧ EndsIn '@' before) ∧
    ∀ w answer, wordAt? text p = some w → tagByBytes? text p = some answer → answer = w.followsAt := by
  have hsearch := tagPositionAt_eq text p
  have hnone : tagByBytes? text p = none ↔ tagPositionAt text p = .undecided := by
    rw [hsearch]
    rcases tagByBytes? text p with - | - | - <;> simp [TagPosition.ofSearch]
  have htrue : tagByBytes? text p = some true ↔ tagPositionAt text p = .inside := by
    rw [hsearch]
    rcases tagByBytes? text p with - | - | - <;> simp [TagPosition.ofSearch]
  refine ⟨hsearch, hnone.trans tagPositionAt_eq_undecided_iff, htrue.trans tagPositionAt_eq_inside_iff, ?_⟩
  intro w answer hw hanswer
  have hword := followsAt_iff hw
  rw [← tagPositionAt_eq_inside_iff, ← htrue, hanswer, Option.some.injEq] at hword
  exact (Bool.eq_iff_iff.mpr hword).symm

/-- In a tag behind a character of two bytes. -/
theorem Sample.letters_in_tag :
    ∃ w, wordAt? "é @min".toList ⟨0, 4⟩ = some w ∧ w.text = "min".toList ∧
      tagByBytes? "é @min".toList ⟨0, 4⟩ = some true ∧ true = w.followsAt := by
  have hword : wordAt? "é @min".toList ⟨0, 4⟩ = some ⟨⟨⟨0, 3⟩, ⟨0, 6⟩⟩, "min".toList, true⟩ := by decide
  have hends : EndsIn '@' "é @m".toList := ⟨"é ".toList, ['m'], rfl, List.forall_mem_singleton.mpr (by decide)⟩
  obtain ⟨-, -, hfound, hsame⟩ := tagByBytes_spec "é @min".toList ⟨0, 4⟩
  have hanswer : tagByBytes? "é @min".toList ⟨0, 4⟩ = some true := hfound.mpr ⟨_, by decide, hends⟩
  exact ⟨_, hword, rfl, hanswer, hsame _ true hword hanswer⟩

/-- Right behind a character of two bytes there is no answer, though no `@` stands there, and a completion fails. -/
theorem Sample.accent_unanswered :
    tagByBytes? "// é".toList ⟨0, 4⟩ = none ∧
      ((Session.empty.handle (.openDocument "a" "// é")).1.handle (.complete "a" ⟨0, 4⟩)).2.answer = .failure ∧
      ¬ ∀ text p, tagByBytes? text p ≠ none := by
  have hnone : tagByBytes? "// é".toList ⟨0, 4⟩ = none := by decide
  exact ⟨hnone, (Session.answer_complete_eq_failure_iff _ _ _).mpr ⟨_, rfl, hnone⟩, fun hall => hall _ _ hnone⟩

end ServiceGraph.Editor
