import ServiceGraph.Proofs.Emission.Notes
import ServiceGraph.Proofs.Emission.Sayable
import ServiceGraph.Proofs.Json.RoundTrip

/-!
Comments are a codec.

A comment that is written for a description and tags is one token, and gives the same description and the same values
of the tags back, if the description is tidy (`Annotation.IsTidy`); nothing is reported about it but a format that is
not known. The descriptions that comments give are just the tidy ones (`Annotation.comment_codec`). What is reported
about a comment does not depend on where its tags stand (`Annotation.said_applyTags`).
-/

namespace ServiceGraph

open Syntax Emission

namespace Annotation

/-! ## 1. Tidy descriptions -/

/-- A description whose lines are trimmed and do not start with `@`, and whose first and last line are not empty. -/
structure IsTidy (description : String) : Prop where
  trimmed : ∀ l ∈ Text.splitOnChar (· = '\n') description.toList, Text.trim l = l
  plain : ∀ l ∈ Text.splitOnChar (· = '\n') description.toList, l.head? ≠ some '@'
  first : ∀ l ∈ (Text.splitOnChar (· = '\n') description.toList).head?, l ≠ []
  last : ∀ l ∈ (Text.splitOnChar (· = '\n') description.toList).getLast?, l ≠ []

theorem head_of_tagOfLine? {l : List Char} (h : tagOfLine? l = none) : l.head? ≠ some '@' := by
  intro hat
  obtain ⟨rest, rfl⟩ := List.head?_eq_some_iff.mp hat
  cases h

/-- Kept lines that are no tags make up a tidy description. -/
theorem AreKept.isTidy {kept : List (List Char)} (h : AreKept kept) (hne : kept ≠ [])
    (htags : ∀ l ∈ kept, tagOfLine? l = none) : IsTidy (String.ofList (['\n'].intercalate kept)) := by
  have hlines : Text.splitOnChar (· = '\n') (String.ofList (['\n'].intercalate kept)).toList = kept := by
    rw [String.toList_ofList, h.split_eq hne]
  constructor <;> rw [hlines]
  · exact h.trimmed
  · exact fun l hl => head_of_tagOfLine? (htags l hl)
  · rintro l hl rfl
    exact absurd (Text.head_of_dropEnds h.ends _ hl) (by decide)
  · rintro l hl rfl
    exact absurd (Text.last_of_dropEnds h.ends _ hl) (by decide)

namespace IsTidy

variable {description : String} (h : IsTidy description)

include h

/-- The lines of a tidy description are kept as they are. -/
theorem areKept : AreKept (Text.splitOnChar (· = '\n') description.toList) where
  feed l hl c hc := by simpa using Text.not_of_mem_splitOnChar hl c hc
  trimmed := h.trimmed
  ends := Text.dropEnds_eq_self (fun l hl => by simpa using h.first l hl) fun l hl => by simpa using h.last l hl

/-- A tidy description can stand in a comment, if it does not hold the end of one. -/
theorem isDescription (hcloser : hasCloser description.toList = false) : IsDescription description := by
  have hne := Text.splitOnChar_ne_nil (· = '\n') description.toList
  have hback : String.ofList (['\n'].intercalate (Text.splitOnChar (· = '\n') description.toList)) = description := by
    rw [Text.intercalate_splitOnChar (by simp), String.ofList_toList]
  have hsafe := h.areKept.isCommentSafe hne
    (fun l hl => hasCloser_of_isInfix (Text.infix_of_mem_splitOnChar hl) hcloser)
    fun l hl => tagOfLine?_eq_none (h.plain l hl)
  have hnormalized := h.areKept.normalized_eq hne
  rw [hback] at hsafe hnormalized
  exact ⟨hsafe, hnormalized⟩

end IsTidy

/-- **The description that a comment gives is tidy.** -/
theorem isTidy_ofDoc {doc : Doc} {description : String} (h : (ofDoc doc).1.description? = some description) :
    IsTidy description := by
  obtain ⟨kept, hne, hkept, hlines, rfl⟩ := exists_kept_of_description h
  exact hkept.isTidy hne fun t ht => (hlines t ht).1

/-! ## 2. Reports -/

/-- What a problem says, wherever it is. -/
def said (problem : Diagnostic) : Code × String := (problem.code, problem.message)

/-- What is said about a line of a comment. -/
def saidOfText (text : List Char) : List (Code × String) :=
  match tagOfLine? text with
  | some (name, value) => (applyTag .empty name value .origin).2.map said
  | none => []

/-- What is said about a tag depends neither on its place nor on the tags in front of it. -/
theorem said_applyTag (t : TagSet) (name value : List Char) (span : Span) :
    (applyTag t name value span).2.map said = (applyTag .empty name value .origin).2.map said := by
  unfold applyTag
  dsimp only
  split
  case h_5 =>
    split
    · rfl
    · split <;> rfl
  case h_6 =>
    split
    · rfl
    · simp only
      split <;> rfl
  case h_10 => rfl
  case h_11 => rfl
  all_goals split <;> rfl

theorem said_applyTags : ∀ (lines : List ContentLine) (t : TagSet),
    (applyTags t lines).2.map said = (lines.map (·.text)).flatMap saidOfText
  | [], _ => rfl
  | line :: rest, t => by
      unfold applyTags
      rw [List.map_cons, List.flatMap_cons, saidOfText]
      cases tagOfLine? line.text with
      | none => exact said_applyTags rest t
      | some tag =>
        dsimp only
        rw [List.map_append, said_applyTag, said_applyTags rest]

theorem saidOfText_of_plain {text : List Char} (h : tagOfLine? text = none) : saidOfText text = [] := by
  rw [saidOfText, h]

/-- What is said about the line of a tag, whose name stands in front of its value. -/
theorem saidOfText_tag {name : List Char} {lead text : String} (hlead : lead.toList = '@' :: (name ++ [' ']))
    (hname : name.all Char.isAlpha = true) (htext : IsTagValue text.toList) :
    saidOfText (lead ++ text).toList = (applyTag .empty name text.toList .origin).2.map said := by
  rw [toList_tagLine hlead, saidOfText, tagOfLine?_tagLine hname htext]

/-- What is said about a format: nothing if it is known. -/
def saidOfFormat (format : String) : List (Code × String) :=
  if TagSet.knownFormats.contains format then [] else [(.unknownFormat, s!"unknown format `{format}`")]

theorem said_option {α : Type} {f : α → String} {x? : Option α} {g : α → List (Code × String)}
    (h : ∀ x ∈ x?, saidOfText (f x).toList = g x) :
    ((x?.map f).toList.map String.toList).flatMap saidOfText = x?.toList.flatMap g := by
  cases x? with
  | none => rfl
  | some x => exact congrArg (· ++ []) (h x rfl)

theorem said_silent {α : Type} {f : α → String} {x? : Option α} (h : ∀ x ∈ x?, saidOfText (f x).toList = []) :
    ((x?.map f).toList.map String.toList).flatMap saidOfText = [] := by
  rw [said_option h]
  cases x? <;> rfl

/-- Nothing is said about the tags of constraints, but for a format that is not known. -/
theorem said_constraintTags {c : Constraints} (h : c.Legible) :
    ((constraintTags c).map String.toList).flatMap saidOfText = c.format?.toList.flatMap saidOfFormat := by
  have hminimum : ∀ x ∈ c.minimum?, saidOfText ("@min " ++ Decimal.Layout.plain.text x).toList = [] := by
    intro x hx
    rw [@saidOfText_tag "min".toList _ _ rfl (by decide) (isTagValue_of_number? (h.minimum x hx))]
    simp [applyTag, h.minimum x hx]
  have hmaximum : ∀ x ∈ c.maximum?, saidOfText ("@max " ++ Decimal.Layout.plain.text x).toList = [] := by
    intro x hx
    rw [@saidOfText_tag "max".toList _ _ rfl (by decide) (isTagValue_of_number? (h.maximum x hx))]
    simp [applyTag, h.maximum x hx]
  have hminLength : ∀ n ∈ c.minLength?, saidOfText (s!"@minLength {n}").toList = [] := by
    intro n hn
    change saidOfText ("@minLength " ++ toString n).toList = []
    rw [@saidOfText_tag "minLength".toList _ _ rfl (by decide) (isTagValue_toString n)]
    simp only [applyTag, length?_toString (h.minLength n hn)]
    rfl
  have hmaxLength : ∀ n ∈ c.maxLength?, saidOfText (s!"@maxLength {n}").toList = [] := by
    intro n hn
    change saidOfText ("@maxLength " ++ toString n).toList = []
    rw [@saidOfText_tag "maxLength".toList _ _ rfl (by decide) (isTagValue_toString n)]
    simp only [applyTag, length?_toString (h.maxLength n hn)]
    rfl
  have hpattern : ∀ p ∈ c.pattern?, saidOfText ("@pattern " ++ String.ofList (breakClosers p.toList)).toList = [] := by
    intro p hp
    obtain ⟨hvalue, hvalid⟩ := h.pattern p hp
    rw [breakClosers_eq_self hvalue.closer, String.ofList_toList,
      @saidOfText_tag "pattern".toList _ _ rfl (by decide) hvalue]
    simp [applyTag, hvalue.nonempty, hvalid]
  have hformat : ∀ f ∈ c.format?, saidOfText ("@format " ++ f).toList = saidOfFormat f := by
    intro f hf
    rw [@saidOfText_tag "format".toList _ _ rfl (by decide) (h.format f hf), saidOfFormat]
    by_cases hknown : TagSet.knownFormats.contains f = true
    · rw [if_pos hknown]
      simp [applyTag, (h.format f hf).nonempty, List.contains_iff_mem.mp hknown]
    · rw [if_neg hknown]
      simp [applyTag, (h.format f hf).nonempty, mt List.contains_iff_mem.mpr hknown, said]
  unfold constraintTags
  simp only [List.map_append, List.flatMap_append, said_silent hminimum, said_silent hmaximum, said_silent hminLength,
    said_silent hmaxLength, said_silent hpattern, said_option hformat, List.nil_append]

/-- **Nothing is said about the tags of a field, but for a format that is not known.** -/
theorem said_fieldTags {s : Schema} {default? : Option Json} (isDeprecated : Bool) (hc : s.constraints.Legible)
    (hd : ∀ d ∈ default?, d.Legible) :
    ((fieldTags s default? isDeprecated).map String.toList).flatMap saidOfText =
      s.constraints.format?.toList.flatMap saidOfFormat := by
  have hdefault : ∀ d ∈ default?, saidOfText ("@default " ++ d.compact).toList = [] := by
    intro d hmem
    have hvalue := isTagValue_compact (hd d hmem).parsed (hd d hmem).closer
    rw [@saidOfText_tag "default".toList _ _ rfl (by decide) hvalue]
    simp [applyTag, hvalue.nonempty]
  have hdeprecated : ((if isDeprecated then ["@deprecated"] else []).map String.toList).flatMap saidOfText = [] := by
    cases isDeprecated <;> rfl
  unfold fieldTags
  rw [schemaTags_eq]
  simp only [List.map_append, List.flatMap_append, said_constraintTags hc, said_silent hdefault, hdeprecated,
    List.append_nil]

end Annotation

/-! ## 3. Comments -/

/-- A default that can be written into a comment. -/
structure Json.FitsComment (d : Json) : Prop where
  stored : d.Everywhere Json.IsStored
  nesting : d.nesting ≤ Json.nestingLimit
  closer : hasCloser d.compact.toList = false

theorem Json.FitsComment.legible {d : Json} (h : d.FitsComment) : d.Legible :=
  ⟨Json.parse?_compact h.nesting h.stored, h.closer⟩

namespace Annotation

/-- What is read from a comment, and reported about it. -/
structure ReadsBack (doc : Doc) (description? : Option String) (c : Constraints) (default? : Option Json)
    (isDeprecated : Bool) : Prop where
  description : (ofDoc doc).1.description? = description?
  tags : (ofDoc doc).1.tags.erased = .saying c default? isDeprecated
  reports : (ofDoc doc).2.map said = c.format?.toList.flatMap saidOfFormat

section

variable {description? : Option String} {s : Schema} {default? : Option Json} {isDeprecated : Bool}

theorem descriptionLines_ne_nil {description : String} (h : IsTidy description) :
    descriptionLines description ≠ [] := by
  intro hnil
  have hlines : Text.lines description.toList = [] := List.map_eq_nil_iff.mp hnil
  have htrimmed : (Text.splitOnChar (· = '\n') description.toList).map Text.trim =
      Text.splitOnChar (· = '\n') description.toList := (List.map_congr_left h.trimmed).trans (List.map_id' _)
  rcases Text.map_trim_splitOnChar description.toList with heq | heq
  · rw [htrimmed, hlines] at heq
    exact Text.splitOnChar_ne_nil _ _ heq
  · rw [htrimmed, hlines] at heq
    exact h.first [] (by rw [heq]; rfl) rfl

theorem eq_none_of_fieldTags (h : fieldTags s default? isDeprecated = []) :
    s.constraints = .none ∧ default? = none ∧ isDeprecated = false := by
  unfold fieldTags at h
  rw [schemaTags_eq] at h
  unfold constraintTags at h
  generalize s.constraints = c at h ⊢
  obtain ⟨minimum?, maximum?, minLength?, maxLength?, pattern?, format?⟩ := c
  simpa [Constraints.none, and_assoc] using h

/-- If there is something to say, there are lines that say it. -/
theorem noteLines_ne_nil (hdesc : ∀ d ∈ description?, IsTidy d)
    (h : description? ≠ none ∨ s.constraints ≠ .none ∨ default? ≠ none ∨ isDeprecated = true) :
    noteLines description? s default? isDeprecated ≠ [] := by
  intro hnil
  obtain ⟨hlines, htags⟩ := List.append_eq_nil_iff.mp hnil
  obtain ⟨hc, hd, hdeprecated⟩ := eq_none_of_fieldTags htags
  rcases h with h | h | h | h
  · obtain ⟨d, rfl⟩ := Option.ne_none_iff_exists'.mp h
    exact descriptionLines_ne_nil (hdesc d rfl) hlines
  · exact h hc
  · exact h hd
  · rw [hdeprecated] at h
    cases h

theorem said_noteTexts (hdesc : ∀ d ∈ description?, isCommentSafe d = true) (hc : s.constraints.Legible)
    (hd : ∀ d ∈ default?, d.Legible) :
    (noteTexts description? s default? isDeprecated).flatMap saidOfText =
      s.constraints.format?.toList.flatMap saidOfFormat := by
  have hplain : ((description?.map fun d => (Text.lines d.toList).map Text.trim).getD []).flatMap saidOfText = [] := by
    cases description? with
    | none => rfl
    | some d =>
      refine List.flatMap_eq_nil_iff.mpr fun t ht => ?_
      obtain ⟨l, hl, rfl⟩ := List.mem_map.mp ht
      exact saidOfText_of_plain (plain_of_safe (hdesc d rfl) l hl)
  rw [noteTexts, List.flatMap_append, hplain, said_fieldTags isDeprecated hc hd, List.nil_append]

/-- A written comment is read back. -/
theorem readsBack_of_commentText {level : Nat} {doc : Doc} (hdesc : ∀ d ∈ description?, IsDescription d)
    (hc : s.constraints.Legible) (hd : ∀ d ∈ default?, d.Legible)
    (hdoc : commentText level (noteLines description? s default? isDeprecated) = some doc.text.toList) :
    ReadsBack doc description? s.constraints default? isDeprecated := by
  have hsafe : ∀ d ∈ description?, isCommentSafe d = true := fun d h => (hdesc d h).safe
  have htags := isTagLine_of_mem_fieldTags isDeprecated hc hd
  have hfits := fits_noteLines hsafe htags
  have hnote : Says ((some doc).map fun doc => (ofDoc doc).1) (description?.bind normalized)
      (.saying s.constraints default? isDeprecated) := says_of_note hsafe hc hd hdoc.symm
  have hnormalized : description?.bind normalized = description? := by
    cases description? with
    | none => rfl
    | some d => exact (hdesc d rfl).normalized
  have hsaid := said_applyTags (contentLines doc) .empty
  refine ⟨hnote.description.trans hnormalized, hnote.tags, hsaid.trans ?_⟩
  rw [← said_noteTexts hsafe hc hd, ← map_trim_noteLines hsafe htags]
  rcases texts_commentText doc (fun l hl => (hfits l hl).1) (fun l hl => (hfits l hl).2) hdoc rfl with heq | heq
  · rw [heq]
  · rw [heq, List.flatMap_cons, List.flatMap_append]
    exact List.append_nil _

end

/-- **Comments are a codec.** What is written into a comment is one token and is read back as it was, description and
tags, with nothing reported but a format that is not known; and every description that is read from a comment is tidy. -/
theorem comment_codec :
    (∀ (level : Nat) (description? : Option String) (s : Schema) (default? : Option Json) (isDeprecated : Bool),
      (∀ d ∈ description?, IsTidy d ∧ hasCloser d.toList = false) → s.constraints.Legible →
      (∀ d ∈ default?, d.FitsComment) →
      (description? ≠ none ∨ s.constraints ≠ .none ∨ default? ≠ none ∨ isDeprecated = true) →
        ∃ written text : String, written = Emission.describe level description? (fieldTags s default? isDeprecated) ∧
          written.toList = blanks level ++ (text.toList ++ ['\n']) ∧
          (Token.scan written.toList).map Token.signature = [(.comment, text)] ∧
          ∀ doc, doc.text = text → ReadsBack doc description? s.constraints default? isDeprecated) ∧
    ∀ doc description, (ofDoc doc).1.description? = some description → IsTidy description := by
  refine ⟨fun level description? s default? isDeprecated hdesc hc hd hpresent => ?_, fun _ _ => isTidy_ofDoc⟩
  have hlegible : ∀ d ∈ default?, d.Legible := fun d h => (hd d h).legible
  have hdescription : ∀ d ∈ description?, IsDescription d := fun d h => (hdesc d h).1.isDescription (hdesc d h).2
  have htags := isTagLine_of_mem_fieldTags isDeprecated hc hlegible
  have hfits := fits_noteLines (fun d h => (hdescription d h).safe) htags
  have hne := noteLines_ne_nil (fun d h => (hdesc d h).1) hpresent
  obtain ⟨text, htext⟩ : ∃ text, commentText level (noteLines description? s default? isDeprecated) = some text := by
    unfold commentText
    split
    · exact absurd ‹_› hne
    · exact ⟨_, rfl⟩
    · exact ⟨_, rfl⟩
  have hscan := (lexes_comment level (fun l hl => (hfits l hl).2)).scan
  rw [htext] at hscan
  refine ⟨_, String.ofList text, rfl, ?_, hscan, fun doc hdoc => ?_⟩
  · rw [String.toList_ofList]
    change (comment level (noteLines description? s default? isDeprecated)).toList = _
    rw [toList_comment, htext]
    rfl
  · exact readsBack_of_commentText hdescription hc hlegible (by rw [htext, hdoc, String.toList_ofList])

namespace Sample

/-- A comment with a description that has an empty line and a line with a star in front, and with five tags. -/
def note : Doc :=
  ⟨"/**\n   * A.\n   *\n   * * b\n   * @minLength 1\n   * @pattern a*\n   * @format odd\n   * @default [null,true]\n" ++
    "   * @deprecated\n   */", .origin⟩

def noted : Schema :=
  .leaf .string { Constraints.none with minLength? := some 1, pattern? := some "a*", format? := some "odd" }

theorem isTidy_description : IsTidy "A.\n\n* b" where
  trimmed := by decide
  plain := by decide
  first := by decide
  last := by decide

theorem legible_noted : noted.constraints.Legible := by
  refine ⟨nofun, nofun, ?_, nofun, ?_, ?_⟩
  · rintro n ⟨⟩
    decide
  · rintro p ⟨⟩
    exact ⟨⟨by decide, by decide, by simp, by decide⟩, by decide +kernel⟩
  · rintro f ⟨⟩
    exact ⟨by decide, by decide, by simp, by decide⟩

theorem fitsComment_default : (Json.array [.null, .bool true]).FitsComment where
  stored := by
    intro p hp
    cases hp with
    | self => exact ⟨by simp, by simp⟩
    | item hx hp =>
      simp only [List.mem_cons, List.not_mem_nil, or_false] at hx
      rcases hx with rfl | rfl <;> cases hp <;> exact ⟨by simp, by simp⟩
  nesting := by decide
  closer := by cbv

theorem note_written :
    (Emission.describe 1 (some "A.\n\n* b") (fieldTags noted (some (.array [.null, .bool true])) true)).toList =
      blanks 1 ++ (note.text.toList ++ ['\n']) := by decide +kernel

theorem note_readBack :
    ReadsBack note (some "A.\n\n* b") noted.constraints (some (.array [.null, .bool true])) true ∧
      IsTidy "A.\n\n* b" := by
  obtain ⟨_, text, rfl, htext, -, hread⟩ := comment_codec.1 1 (some "A.\n\n* b") noted (some (.array [.null, .bool true])) true
    (by
      rintro d ⟨⟩
      exact ⟨isTidy_description, by decide⟩)
    legible_noted
    (by
      rintro d ⟨⟩
      exact fitsComment_default)
    (.inl (by simp))
  have hsame : note.text.toList = text.toList :=
    List.append_cancel_right (List.append_cancel_left (note_written.symm.trans htext))
  have hnote := hread note (String.toList_inj.mp hsame)
  exact ⟨hnote, comment_codec.2 note _ hnote.description⟩

end Sample

end Annotation

end ServiceGraph
