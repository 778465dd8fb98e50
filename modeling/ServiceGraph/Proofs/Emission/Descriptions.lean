import ServiceGraph.Proofs.Emission.Comment

/-!
Descriptions in comments.

A description that is safe is read back with its lines trimmed, and without the empty ones at both ends
(`Annotation.describeTexts_of_safe`); `Annotation.normalized` gives that form. A description that was
read from a comment has it already (`Annotation.IsDescription`).
-/

namespace ServiceGraph

open Syntax Emission

namespace Annotation

/-! ## 1. Descriptions -/

/-- Lines put together, without the empty ones at both ends. -/
def joined (lines : List (List Char)) : Option String :=
  match withoutEmptyEnds lines with
  | [] => none
  | kept => some (String.ofList (['\n'].intercalate kept))

/-- The description that lines make up, by their texts. -/
def describeTexts (texts : List (List Char)) : Option String :=
  joined (texts.filter fun t => (tagOfLine? t).isNone)

/-- A description with its lines trimmed and the empty ones at both ends left out. -/
def normalized (description : String) : Option String :=
  joined ((Text.splitOnChar (· = '\n') description.toList).map Text.trim)

/-- Lines that are kept as they are written. -/
structure AreKept (kept : List (List Char)) : Prop where
  feed : ∀ l ∈ kept, ∀ c ∈ l, c ≠ '\n'
  trimmed : ∀ l ∈ kept, Text.trim l = l
  ends : withoutEmptyEnds kept = kept

/-- A description that is kept as it is, and can stand in a comment. -/
structure IsDescription (description : String) : Prop where
  safe : isCommentSafe description = true
  normalized : normalized description = some description

theorem describe_eq (lines : List ContentLine) :
    describe lines = describeTexts (lines.map (·.text)) := by
  have hplain : lines.filterMap (fun l => if (tagOfLine? l.text).isSome then none else some l.text) =
      (lines.map (·.text)).filter fun t => (tagOfLine? t).isNone := by
    induction lines with
    | nil => rfl
    | cons l lines ih =>
      rw [List.filterMap_cons, List.map_cons, List.filter_cons, ih]
      cases tagOfLine? l.text <;> rfl
  unfold describe describeTexts
  dsimp only
  rw [hplain]
  rfl

theorem joined_cons_nil (lines : List (List Char)) : joined ([] :: lines) = joined lines := by
  have h : withoutEmptyEnds ([] :: lines) = withoutEmptyEnds lines := Text.dropEnds_cons rfl lines
  rw [joined, h, joined]

theorem joined_append_nil (lines : List (List Char)) : joined (lines ++ [[]]) = joined lines := by
  have h : withoutEmptyEnds (lines ++ [[]]) = withoutEmptyEnds lines := Text.dropEnds_append rfl lines
  rw [joined, h, joined]

theorem AreKept.joined_eq {kept : List (List Char)} (h : AreKept kept) (hne : kept ≠ []) :
    joined kept = some (String.ofList (['\n'].intercalate kept)) := by
  unfold joined
  rw [h.ends]
  split
  · exact absurd rfl hne
  · rfl

theorem AreKept.split_eq {kept : List (List Char)} (h : AreKept kept) (hne : kept ≠ []) :
    Text.splitOnChar (· = '\n') (['\n'].intercalate kept) = kept :=
  Text.splitOnChar_intercalate (by decide) hne fun l hl c hc => by simpa using h.feed l hl c hc

/-- Kept lines are normalized already. -/
theorem AreKept.normalized_eq {kept : List (List Char)} (h : AreKept kept) (hne : kept ≠ []) :
    normalized (String.ofList (['\n'].intercalate kept)) =
      some (String.ofList (['\n'].intercalate kept)) := by
  unfold normalized
  rw [String.toList_ofList, h.split_eq hne, List.map_congr_left h.trimmed, List.map_id', h.joined_eq hne]

/-- What is put together from trimmed lines is made of kept ones. -/
theorem exists_kept_of_joined {lines : List (List Char)} {description : String}
    (hfeed : ∀ l ∈ lines, ∀ c ∈ l, c ≠ '\n') (htrimmed : ∀ l ∈ lines, Text.trim l = l)
    (h : joined lines = some description) : ∃ kept, kept ≠ [] ∧ kept ⊆ lines ∧ AreKept kept ∧
      description = String.ofList (['\n'].intercalate kept) := by
  unfold joined at h
  split at h
  · cases h
  · rename_i hne
    cases h
    have hsub : withoutEmptyEnds lines ⊆ lines :=
      (Text.dropEnds_isInfix (p := List.isEmpty) lines).subset
    refine ⟨_, fun heq => hne heq, hsub, ⟨fun l hl => hfeed l (hsub hl), fun l hl => htrimmed l (hsub hl), ?_⟩,
      rfl⟩
    exact Text.dropEnds_dropEnds (p := List.isEmpty) lines

theorem feed_of_trim {l : List Char} (h : ∀ c ∈ l, c ≠ '\n') : ∀ c ∈ Text.trim l, c ≠ '\n' :=
  fun c hc => h c ((Text.dropEnds_isInfix l).subset hc)

/-- Normalizing twice changes nothing more. -/
theorem normalized_of_normalized {description result : String} (h : normalized description = some result) :
    normalized result = some result := by
  have hfeed : ∀ l ∈ (Text.splitOnChar (· = '\n') description.toList).map Text.trim, ∀ c ∈ l, c ≠ '\n' := by
    intro l hl
    obtain ⟨piece, hpiece, rfl⟩ := List.mem_map.mp hl
    exact feed_of_trim fun c hc => by simpa using Text.not_of_mem_splitOnChar hpiece c hc
  have htrimmed : ∀ l ∈ (Text.splitOnChar (· = '\n') description.toList).map Text.trim, Text.trim l = l := by
    intro l hl
    obtain ⟨piece, -, rfl⟩ := List.mem_map.mp hl
    exact Text.dropEnds_dropEnds piece
  obtain ⟨kept, hne, -, hkept, rfl⟩ := exists_kept_of_joined hfeed htrimmed h
  exact hkept.normalized_eq hne

theorem tagOfLine?_eq_none {l : List Char} (h : l.head? ≠ some '@') : tagOfLine? l = none := by
  unfold tagOfLine?
  split
  · exact absurd rfl h
  · rfl

theorem head_trim (l : List Char) : (Text.trim l).head? ≠ some '@' ∨ startsTag l = true := by
  unfold startsTag
  cases hhead : (Text.trimStart l).head? with
  | none =>
    rw [List.head?_eq_none_iff] at hhead
    rw [Text.trim, hhead]
    exact .inl (by simp [Text.trimEnd])
  | some c =>
    by_cases hc : c = '@'
    · exact .inr (by simp [hc])
    · refine .inl fun hat => ?_
      obtain ⟨rest, heq⟩ := List.head?_eq_some_iff.mp hhead
      obtain ⟨rest', heq'⟩ := List.head?_eq_some_iff.mp hat
      have hprefix : Text.trim l <+: Text.trimStart l := Text.dropEnd_isPrefix _
      rw [heq, heq', List.cons_prefix_cons] at hprefix
      exact hc hprefix.1.symm

/-- The lines of a safe description are written as they are. -/
theorem descriptionLines_eq {description : String} (h : isCommentSafe description = true) :
    descriptionLines description = (Text.lines description.toList).map String.ofList ∧
      ∀ l ∈ Text.lines description.toList, hasCloser l = false ∧ startsTag l = false := by
  simp only [isCommentSafe, Bool.and_eq_true, Bool.not_eq_true', List.any_eq_false] at h
  have hall : ∀ l ∈ Text.lines description.toList, hasCloser l = false ∧ startsTag l = false :=
    fun l hl => ⟨hasCloser_of_isInfix (Text.infix_of_mem_lines hl) h.1, by simpa using h.2 l hl⟩
  refine ⟨List.map_congr_left fun l hl => ?_, hall⟩
  unfold descriptionLine
  rw [breakClosers_eq_self (hall l hl).1]
  simp [(hall l hl).2]

/-- No line of a safe description is read as a tag. -/
theorem plain_of_safe {description : String} (h : isCommentSafe description = true) :
    ∀ l ∈ Text.lines description.toList, tagOfLine? (Text.trim l) = none := by
  intro l hl
  rcases head_trim l with hhead | hstarts
  · exact tagOfLine?_eq_none hhead
  · rw [((descriptionLines_eq h).2 l hl).2] at hstarts
    cases hstarts

theorem filter_of_tags {tags : List (List Char)} (htags : ∀ t ∈ tags, (tagOfLine? t).isSome = true) :
    tags.filter (fun t => (tagOfLine? t).isNone) = [] := by
  rw [List.filter_eq_nil_iff]
  intro t ht
  rw [Option.isNone_iff_eq_none]
  exact Option.ne_none_iff_isSome.mpr (htags t ht)

/-- **A safe description is read back normalized**, whatever tags stand behind it. -/
theorem describeTexts_of_safe {description : String} (h : isCommentSafe description = true)
    {tags : List (List Char)} (htags : ∀ t ∈ tags, (tagOfLine? t).isSome = true) :
    describeTexts ((Text.lines description.toList).map Text.trim ++ tags) = normalized description := by
  have hplain : ((Text.lines description.toList).map Text.trim).filter (fun t => (tagOfLine? t).isNone) =
      (Text.lines description.toList).map Text.trim := by
    rw [List.filter_eq_self]
    intro t ht
    obtain ⟨l, hl, rfl⟩ := List.mem_map.mp ht
    rw [plain_of_safe h l hl]
    rfl
  unfold describeTexts normalized
  rw [List.filter_append, hplain, filter_of_tags htags, List.append_nil]
  rcases Text.map_trim_splitOnChar description.toList with heq | heq
  · rw [heq]
  · rw [heq, joined_append_nil]

/-- Tags alone are no description. -/
theorem describeTexts_of_tags {tags : List (List Char)} (htags : ∀ t ∈ tags, (tagOfLine? t).isSome = true) :
    describeTexts tags = none := by
  unfold describeTexts
  rw [filter_of_tags htags]
  rfl

/-- Empty lines at both ends do not count. -/
theorem describeTexts_between (texts : List (List Char)) :
    describeTexts ([] :: (texts ++ [[]])) = describeTexts texts := by
  unfold describeTexts
  rw [List.filter_cons_of_pos rfl, List.filter_append, List.filter_cons_of_pos rfl, List.filter_nil,
    joined_cons_nil, joined_append_nil]

end Annotation

end ServiceGraph
