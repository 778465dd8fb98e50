import ServiceGraph.Proofs.Emission.Tags

/-!
What a written comment says is read back, description and tags (`Annotation.says_of_note`); and so it is if
there is nothing to say, and no comment.
-/

namespace ServiceGraph

open Syntax Emission

namespace Annotation

/-- What a comment says, if there is one. -/
structure Says (note? : Option Annotation) (description? : Option String) (tags : TagSet) : Prop where
  description : note?.bind (·.description?) = description?
  tags : (note?.map (·.tags.erased)).getD .empty = tags

section

variable {description? : Option String} {s : Schema} {default? : Option Json} {isDeprecated : Bool}

/-- The texts of the lines of a note. -/
def noteTexts (description? : Option String) (s : Schema) (default? : Option Json) (isDeprecated : Bool) :
    List (List Char) :=
  (description?.map fun d => (Text.lines d.toList).map Text.trim).getD [] ++
    (fieldTags s default? isDeprecated).map String.toList

theorem map_trim_noteLines (hdesc : ∀ d ∈ description?, isCommentSafe d = true)
    (htags : ∀ l ∈ fieldTags s default? isDeprecated, IsTagLine l.toList) :
    (noteLines description? s default? isDeprecated).map (fun l => Text.trim l.toList) =
      noteTexts description? s default? isDeprecated := by
  unfold noteLines noteTexts
  rw [List.map_append]
  congr 1
  · cases description? with
    | none => rfl
    | some d =>
      simp only [Option.map_some, Option.getD_some]
      rw [(descriptionLines_eq (hdesc d rfl)).1, List.map_map]
      exact List.map_congr_left fun l _ => by simp
  · exact List.map_congr_left fun l hl => (htags l hl).trimmed

theorem fits_noteLines (hdesc : ∀ d ∈ description?, isCommentSafe d = true)
    (htags : ∀ l ∈ fieldTags s default? isDeprecated, IsTagLine l.toList) :
    ∀ l ∈ noteLines description? s default? isDeprecated,
      (∀ c ∈ l.toList, c ≠ '\n') ∧ hasCloser l.toList = false := by
  intro l hl
  rcases List.mem_append.mp hl with hl | hl
  · cases description? with
    | none => cases hl
    | some d =>
      simp only [Option.map_some, Option.getD_some] at hl
      obtain ⟨heq, hlines⟩ := descriptionLines_eq (hdesc d rfl)
      rw [heq] at hl
      obtain ⟨k, hk, rfl⟩ := List.mem_map.mp hl
      rw [String.toList_ofList]
      exact ⟨Text.feed_of_mem_lines hk, (hlines k hk).1⟩
  · exact ⟨(htags l hl).feed, (htags l hl).closer⟩

/-- What the lines of a note say. -/
theorem describeTexts_noteTexts (hdesc : ∀ d ∈ description?, isCommentSafe d = true)
    (htags : ∀ l ∈ fieldTags s default? isDeprecated, IsTagLine l.toList) :
    describeTexts (noteTexts description? s default? isDeprecated) = description?.bind normalized := by
  have hlines : ∀ t ∈ (fieldTags s default? isDeprecated).map String.toList,
      (tagOfLine? t).isSome = true := by
    intro t ht
    obtain ⟨l, hl, rfl⟩ := List.mem_map.mp ht
    exact (htags l hl).tag
  cases description? with
  | none => exact describeTexts_of_tags hlines
  | some d => exact describeTexts_of_safe (hdesc d rfl) hlines

theorem afterTexts_noteTexts (hdesc : ∀ d ∈ description?, isCommentSafe d = true)
    (hc : s.constraints.Legible) (hd : ∀ d ∈ default?, d.Legible) :
    TagSet.empty.afterTexts (noteTexts description? s default? isDeprecated) =
      .saying s.constraints default? isDeprecated := by
  have hplain : TagSet.empty.afterTexts
      ((description?.map fun d => (Text.lines d.toList).map Text.trim).getD []) = TagSet.empty := by
    cases description? with
    | none => rfl
    | some d =>
      refine TagSet.afterTexts_of_plain (fun t ht => ?_) _
      obtain ⟨l, hl, rfl⟩ := List.mem_map.mp ht
      exact plain_of_safe (hdesc d rfl) l hl
  unfold noteTexts
  rw [TagSet.afterTexts_append, hplain, TagSet.afterTexts_fieldTags isDeprecated hc hd]

/-- **What a written comment says is read back**; if there is no comment, there was nothing to say. -/
theorem says_of_note {level : Nat} {doc? : Option Doc} (hdesc : ∀ d ∈ description?, isCommentSafe d = true)
    (hc : s.constraints.Legible) (hd : ∀ d ∈ default?, d.Legible)
    (hdoc : doc?.map (·.text.toList) = commentText level (noteLines description? s default? isDeprecated)) :
    Says (doc?.map fun doc => (ofDoc doc).1) (description?.bind normalized)
      (.saying s.constraints default? isDeprecated) := by
  have htags := isTagLine_of_mem_fieldTags isDeprecated hc hd
  have hfits := fits_noteLines hdesc htags
  have htrim := map_trim_noteLines hdesc htags
  rw [← describeTexts_noteTexts hdesc htags, ← afterTexts_noteTexts hdesc hc hd]
  cases doc? with
  | none =>
    have hnil : noteLines description? s default? isDeprecated = [] := by
      unfold commentText at hdoc
      split at hdoc
      · assumption
      · cases hdoc
      · cases hdoc
    rw [hnil] at htrim
    rw [← htrim]
    exact ⟨rfl, rfl⟩
  | some doc =>
    have htexts := texts_commentText doc (fun l hl => (hfits l hl).1) (fun l hl => (hfits l hl).2)
      hdoc.symm rfl
    rw [htrim] at htexts
    have hdescribe : (ofDoc doc).1.description? = describeTexts ((contentLines doc).map (·.text)) :=
      describe_eq _
    have happly : (ofDoc doc).1.tags.erased =
        TagSet.empty.afterTexts ((contentLines doc).map (·.text)) := TagSet.erased_applyTags _ _
    constructor
    · change (ofDoc doc).1.description? = _
      rw [hdescribe]
      rcases htexts with heq | heq
      · rw [heq]
      · rw [heq, describeTexts_between]
    · change (ofDoc doc).1.tags.erased = _
      rw [happly]
      rcases htexts with heq | heq
      · rw [heq]
      · rw [heq, ← List.singleton_append, TagSet.afterTexts_append, TagSet.afterTexts_append]
        rfl

end

end Annotation

end ServiceGraph
