import Mathlib
import ServiceGraph.Proofs.Emission.Descriptions
import ServiceGraph.Proofs.Json.Compact
import ServiceGraph.Schema.Tagging

/-!
Tags in comments.

The tags that are written for constraints, a default and deprecation are read back with their values
(`Annotation.ofDoc_note`). Where a tag stands does not matter, so tags are compared without their places
(`TagSet.erased`). The value of a tag has to be a trimmed text on one line (`Annotation.IsTagValue`), and that of
a bound a number that is read back from its text.
-/

namespace ServiceGraph

open Syntax Emission

/-! ## 1. Tags without their places -/

/-- A value as if it stood at the start of a file. -/
def Tagged.unplaced {α : Type} (t : Tagged α) : Tagged α := ⟨t.value, .origin⟩

namespace TagSet

open Annotation

def erased (t : TagSet) : TagSet :=
  ⟨t.minimum?.map Tagged.unplaced, t.maximum?.map Tagged.unplaced, t.minLength?.map Tagged.unplaced,
   t.maxLength?.map Tagged.unplaced, t.pattern?.map Tagged.unplaced, t.format?.map Tagged.unplaced,
   t.enumValues?.map Tagged.unplaced, t.required?.map Tagged.unplaced, t.default?.map Tagged.unplaced,
   t.isDeprecated⟩

/-- The tags after one more line. -/
def afterText (t : TagSet) (text : List Char) : TagSet :=
  match tagOfLine? text with
  | some (name, value) => (applyTag t name value .origin).1
  | none => t

/-- The tags after several lines. -/
def afterTexts (t : TagSet) (texts : List (List Char)) : TagSet := texts.foldl afterText t

/-- The tags for constraints, a default and deprecation. -/
def saying (c : Constraints) (default? : Option Json) (isDeprecated : Bool) : TagSet :=
  ⟨c.minimum?.map (⟨·, .origin⟩), c.maximum?.map (⟨·, .origin⟩), c.minLength?.map (⟨·, .origin⟩),
   c.maxLength?.map (⟨·, .origin⟩), c.pattern?.map (⟨·, .origin⟩), c.format?.map (⟨·, .origin⟩), none, none,
   default?.map (⟨·, .origin⟩), isDeprecated⟩

theorem erased_applyTag (t : TagSet) (name value : List Char) (span : Span) :
    (applyTag t name value span).1.erased = (applyTag t.erased name value .origin).1 := by
  unfold applyTag
  dsimp only
  split
  · split <;> rfl
  · split <;> rfl
  · split <;> rfl
  · split <;> rfl
  · split
    · rfl
    · split <;> rfl
  · split <;> rfl
  · split <;> rfl
  · split <;> rfl
  · split <;> rfl
  · rfl
  · rfl

theorem erased_applyTags : ∀ (lines : List ContentLine) (t : TagSet),
    (applyTags t lines).1.erased = t.erased.afterTexts (lines.map (·.text))
  | [], _ => rfl
  | line :: rest, t => by
      unfold applyTags
      rw [List.map_cons, afterTexts, List.foldl_cons, afterText]
      cases tagOfLine? line.text with
      | none => exact erased_applyTags rest t
      | some tag =>
        dsimp only
        rw [erased_applyTags rest, erased_applyTag]
        rfl

theorem afterTexts_append (t : TagSet) (texts more : List (List Char)) :
    t.afterTexts (texts ++ more) = (t.afterTexts texts).afterTexts more :=
  List.foldl_append

/-- Lines that are no tags change nothing. -/
theorem afterTexts_of_plain {texts : List (List Char)} (h : ∀ l ∈ texts, tagOfLine? l = none) (t : TagSet) :
    t.afterTexts texts = t := by
  induction texts with
  | nil => rfl
  | cons l texts ih =>
    have hl : t.afterText l = t := by rw [afterText, h l List.mem_cons_self]
    rw [afterTexts, List.foldl_cons, hl]
    exact ih fun k hk => h k (List.mem_cons_of_mem _ hk)

end TagSet

namespace Annotation

/-! ## 2. Lines of tags -/

/-- The value of a tag: a text on one line, without white space at its ends. -/
structure IsTagValue (value : List Char) : Prop where
  nonempty : value ≠ []
  trimmed : Text.trim value = value
  feed : ∀ c ∈ value, c ≠ '\n'
  closer : hasCloser value = false

/-- A line that is a tag, and stays as it is in a comment. -/
structure IsTagLine (line : List Char) : Prop where
  tag : (tagOfLine? line).isSome = true
  trimmed : Text.trim line = line
  feed : ∀ c ∈ line, c ≠ '\n'
  closer : hasCloser line = false

/-- The line of a tag. -/
def tagLine (name value : List Char) : List Char := '@' :: (name ++ ' ' :: value)

/-- A text in front of which the tag is written. -/
theorem toList_tagLine {name : List Char} {lead : String} (h : lead.toList = '@' :: (name ++ [' '])) (text : String) :
    (lead ++ text).toList = tagLine name text.toList := by
  rw [String.toList_append, h]
  simp [tagLine]

theorem closer_of_slash {s : List Char} (h : '/' ∉ s) : hasCloser s = false := by
  cases hcloser : hasCloser s with
  | false => rfl
  | true => exact absurd (slash_mem_of_hasCloser hcloser) h

theorem isTagValue_of_numberParts {value : List Char} (hne : value ≠ [])
    (h : value.all Json.isNumberPart = true) : IsTagValue value := by
  have hpart := List.all_eq_true.mp h
  have hvisible : value.all Text.isVisible = true :=
    List.all_eq_true.mpr fun c hc => (Json.isVisible_of_isNumberPart (hpart c hc)).1
  refine ⟨hne, (Json.hasInkEnds_of_visible hne hvisible).trim_eq, ?_, closer_of_slash fun hmem => ?_⟩
  · rintro c hc rfl
    have hfeed := List.all_eq_true.mp hvisible _ hc
    cases hfeed
  · exact (Json.isVisible_of_isNumberPart (hpart _ hmem)).2 rfl

theorem isTagValue_of_number? {value : List Char} {x : Float} (h : number? value = some x) :
    IsTagValue value :=
  have hparts := Json.numberParts_of_isSignedNumeral (isSignedNumeral_of_number? h)
  isTagValue_of_numberParts hparts.1 hparts.2

theorem isTagValue_toString (n : Nat) : IsTagValue (toString n).toList := by
  refine isTagValue_of_numberParts ?_ (Json.numberParts_of_nat n)
  rw [Nat.toString_eq_repr, Nat.toList_repr]
  exact Nat.toDigits_ne_nil

theorem isTagValue_compact {d : Json} (h : Json.parse? d.compact = some d)
    (hcloser : hasCloser d.compact.toList = false) : IsTagValue d.compact.toList :=
  have hends := Json.hasInkEnds_compact h
  ⟨hends.nonempty, hends.trim_eq, fun _ hc heq => Json.feed_compact d (heq ▸ hc), hcloser⟩

theorem isVisible_of_isAlpha {c : Char} (h : c.isAlpha = true) : Text.isVisible c = true ∧ c ≠ '/' := by
  constructor
  · simp only [Char.isAlpha, Char.isUpper, Char.isLower, Bool.or_eq_true, Bool.and_eq_true,
      decide_eq_true_eq] at h
    simp only [Text.isVisible, Bool.and_eq_true, decide_eq_true_eq]
    rcases h with ⟨hlow, hhigh⟩ | ⟨hlow, hhigh⟩
    · have h₁ : 65 ≤ c.toNat := UInt32.le_iff_toNat_le.mp hlow
      have h₂ : c.toNat ≤ 90 := UInt32.le_iff_toNat_le.mp hhigh
      omega
    · have h₁ : 97 ≤ c.toNat := UInt32.le_iff_toNat_le.mp hlow
      have h₂ : c.toNat ≤ 122 := UInt32.le_iff_toNat_le.mp hhigh
      omega
  · rintro rfl
    cases h

section Line

variable {name value : List Char}

/-- The line of a tag, taken apart. -/
theorem tagOfLine?_tagLine (hname : name.all Char.isAlpha = true) (hvalue : IsTagValue value) :
    tagOfLine? (tagLine name value) = some (name, value) := by
  have hink : ∀ c ∈ name, Text.isWhiteSpace c = false := fun c hc =>
    Json.isWhiteSpace_of_isVisible (isVisible_of_isAlpha (List.all_eq_true.mp hname c hc)).1
  have htake : (name ++ ' ' :: value).takeWhile (fun c => !Text.isWhiteSpace c) = name := by
    rw [List.takeWhile_append_of_pos fun c hc => by simp [hink c hc],
      List.takeWhile_cons_of_neg (by simp [isWhiteSpace_blank]), List.append_nil]
  have hdrop : (name ++ ' ' :: value).dropWhile (fun c => !Text.isWhiteSpace c) = ' ' :: value := by
    rw [List.dropWhile_append_of_pos fun c hc => by simp [hink c hc],
      List.dropWhile_cons_of_neg (by simp [isWhiteSpace_blank])]
  have htrim : Text.trim (' ' :: value) = value :=
    (Text.dropEnds_cons isWhiteSpace_blank value).trans hvalue.trimmed
  simp only [tagOfLine?, tagLine, htake, hdrop, htrim]

theorem isTagLine_tagLine (hname : name.all Char.isAlpha = true) (hvalue : IsTagValue value) :
    IsTagLine (tagLine name value) where
  tag := by rw [tagOfLine?_tagLine hname hvalue, Option.isSome_some]
  trimmed := by
    refine Text.dropEnds_eq_self ?_ ?_
    · intro c hc
      cases hc
      decide
    · intro c hc
      have hlast : value.getLast? = some c := by
        have hsplit : tagLine name value = ('@' :: (name ++ [' '])) ++ value := by simp [tagLine]
        rwa [hsplit, List.getLast?_append, Option.or_of_isSome (by simp [hvalue.nonempty])] at hc
      exact Text.last_of_dropEnds hvalue.trimmed c hlast
  feed := by
    intro c hc
    rcases List.mem_cons.mp hc with rfl | hc
    · decide
    · rcases List.mem_append.mp hc with hc | hc
      · rintro rfl
        have hvisible := (isVisible_of_isAlpha (List.all_eq_true.mp hname _ hc)).1
        cases hvisible
      · rcases List.mem_cons.mp hc with rfl | hc
        · decide
        · exact hvalue.feed c hc
  closer := by
    have hcloser : hasCloser name = false := closer_of_slash fun hmem =>
      (isVisible_of_isAlpha (List.all_eq_true.mp hname _ hmem)).2 rfl
    rw [tagLine, hasCloser_cons (by decide), hasCloser_append_cons (by decide) (by decide), hcloser,
      hvalue.closer]
    rfl

end Line

end Annotation

/-! ## 3. The tags of a field -/

/-- Constraints whose tags are read back. -/
structure Constraints.Legible (c : Constraints) : Prop where
  minimum : ∀ x ∈ c.minimum?, Annotation.number? (Decimal.Layout.plain.text x).toList = some x
  maximum : ∀ x ∈ c.maximum?, Annotation.number? (Decimal.Layout.plain.text x).toList = some x
  minLength : ∀ n ∈ c.minLength?, n ≤ Json.largestWhole
  maxLength : ∀ n ∈ c.maxLength?, n ≤ Json.largestWhole
  pattern : ∀ p ∈ c.pattern?, Annotation.IsTagValue p.toList ∧ Pattern.isValid p = true
  format : ∀ f ∈ c.format?, Annotation.IsTagValue f.toList

/-- A default whose tag is read back. -/
structure Json.Legible (d : Json) : Prop where
  parsed : Json.parse? d.compact = some d
  closer : hasCloser d.compact.toList = false

theorem Emission.schemaTags_eq (s : Schema) : schemaTags s = constraintTags s.constraints := by
  cases s <;> rfl

/-- The lines of the comment of a field. -/
def Emission.noteLines (description? : Option String) (schema : Schema) (default? : Option Json)
    (isDeprecated : Bool) : List String :=
  (description?.map descriptionLines).getD [] ++ fieldTags schema default? isDeprecated

namespace TagSet

open Annotation

section Steps

variable {t : TagSet} {value : List Char}

/-- A tag that may be left out. -/
theorem afterTexts_option {α : Type} {f : α → String} {x? : Option α} (set : Option α → TagSet)
    (hnone : set none = t) (hsome : ∀ x ∈ x?, t.afterText (f x).toList = set (some x)) :
    t.afterTexts ((x?.map f).toList.map String.toList) = set x? := by
  cases x? with
  | none => exact hnone.symm
  | some x => exact hsome x rfl

theorem afterTexts_minimum {x? : Option Float} (ht : t.minimum? = none)
    (h : ∀ x ∈ x?, number? (Decimal.Layout.plain.text x).toList = some x) :
    t.afterTexts ((x?.map fun x => "@min " ++ Decimal.Layout.plain.text x).toList.map String.toList) =
      { t with minimum? := x?.map (⟨·, .origin⟩) } := by
  refine afterTexts_option (fun v? => { t with minimum? := v?.map (⟨·, .origin⟩) }) (by cases t; cases ht; rfl)
    fun x hv => ?_
  have hline : ("@min " ++ Decimal.Layout.plain.text x).toList =
      tagLine "min".toList (Decimal.Layout.plain.text x).toList := String.toList_append
  rw [hline, afterText, tagOfLine?_tagLine (by decide) (isTagValue_of_number? (h x hv))]
  simp [applyTag, h x hv]

theorem afterTexts_maximum {x? : Option Float} (ht : t.maximum? = none)
    (h : ∀ x ∈ x?, number? (Decimal.Layout.plain.text x).toList = some x) :
    t.afterTexts ((x?.map fun x => "@max " ++ Decimal.Layout.plain.text x).toList.map String.toList) =
      { t with maximum? := x?.map (⟨·, .origin⟩) } := by
  refine afterTexts_option (fun v? => { t with maximum? := v?.map (⟨·, .origin⟩) }) (by cases t; cases ht; rfl)
    fun x hv => ?_
  have hline : ("@max " ++ Decimal.Layout.plain.text x).toList =
      tagLine "max".toList (Decimal.Layout.plain.text x).toList := String.toList_append
  rw [hline, afterText, tagOfLine?_tagLine (by decide) (isTagValue_of_number? (h x hv))]
  simp [applyTag, h x hv]

theorem afterTexts_minLength {n? : Option Nat} (ht : t.minLength? = none)
    (h : ∀ n ∈ n?, n ≤ Json.largestWhole) :
    t.afterTexts ((n?.map fun n => s!"@minLength {n}").toList.map String.toList) =
      { t with minLength? := n?.map (⟨·, .origin⟩) } := by
  refine afterTexts_option (fun v? => { t with minLength? := v?.map (⟨·, .origin⟩) }) (by cases t; cases ht; rfl)
    fun n hv => ?_
  have hline : (s!"@minLength {n}").toList = tagLine "minLength".toList (toString n).toList :=
    String.toList_append
  rw [hline, afterText, tagOfLine?_tagLine (by decide) (isTagValue_toString n)]
  simp only [applyTag, length?_toString (h n hv)]
  rfl

theorem afterTexts_maxLength {n? : Option Nat} (ht : t.maxLength? = none)
    (h : ∀ n ∈ n?, n ≤ Json.largestWhole) :
    t.afterTexts ((n?.map fun n => s!"@maxLength {n}").toList.map String.toList) =
      { t with maxLength? := n?.map (⟨·, .origin⟩) } := by
  refine afterTexts_option (fun v? => { t with maxLength? := v?.map (⟨·, .origin⟩) }) (by cases t; cases ht; rfl)
    fun n hv => ?_
  have hline : (s!"@maxLength {n}").toList = tagLine "maxLength".toList (toString n).toList :=
    String.toList_append
  rw [hline, afterText, tagOfLine?_tagLine (by decide) (isTagValue_toString n)]
  simp only [applyTag, length?_toString (h n hv)]
  rfl

theorem afterTexts_pattern {p? : Option String} (ht : t.pattern? = none)
    (h : ∀ p ∈ p?, IsTagValue p.toList ∧ Pattern.isValid p = true) :
    t.afterTexts ((p?.map fun p => "@pattern " ++ String.ofList (breakClosers p.toList)).toList.map String.toList) =
      { t with pattern? := p?.map (⟨·, .origin⟩) } := by
  refine afterTexts_option (fun v? => { t with pattern? := v?.map (⟨·, .origin⟩) }) (by cases t; cases ht; rfl)
    fun p hv => ?_
  obtain ⟨hvalue, hvalid⟩ := h p hv
  have hline : ("@pattern " ++ String.ofList (breakClosers p.toList)).toList =
      tagLine "pattern".toList p.toList := by
    rw [breakClosers_eq_self hvalue.closer, String.ofList_toList, String.toList_append]
    rfl
  rw [hline, afterText, tagOfLine?_tagLine (by decide) hvalue]
  simp [applyTag, hvalue.nonempty, hvalid]

theorem afterTexts_format {f? : Option String} (ht : t.format? = none)
    (h : ∀ f ∈ f?, IsTagValue f.toList) :
    t.afterTexts ((f?.map ("@format " ++ ·)).toList.map String.toList) =
      { t with format? := f?.map (⟨·, .origin⟩) } := by
  refine afterTexts_option (fun v? => { t with format? := v?.map (⟨·, .origin⟩) }) (by cases t; cases ht; rfl)
    fun f hv => ?_
  have hline : ("@format " ++ f).toList = tagLine "format".toList f.toList := String.toList_append
  rw [hline, afterText, tagOfLine?_tagLine (by decide) (h f hv)]
  simp [applyTag, (h f hv).nonempty]

theorem afterTexts_default {d? : Option Json} (ht : t.default? = none)
    (h : ∀ d ∈ d?, d.Legible) :
    t.afterTexts ((d?.map fun d => "@default " ++ d.compact).toList.map String.toList) =
      { t with default? := d?.map (⟨·, .origin⟩) } := by
  refine afterTexts_option (fun v? => { t with default? := v?.map (⟨·, .origin⟩) }) (by cases t; cases ht; rfl)
    fun d hv => ?_
  have hvalue := isTagValue_compact (h d hv).parsed (h d hv).closer
  have hempty : d.compact.toList.isEmpty = false := by simpa using hvalue.nonempty
  have hline : ("@default " ++ d.compact).toList = tagLine "default".toList d.compact.toList :=
    String.toList_append
  rw [hline, afterText, tagOfLine?_tagLine (by decide) hvalue]
  simp [applyTag, hempty, defaultValue, (h d hv).parsed]

end Steps

/-- **The tags of constraints are read back.** -/
theorem afterTexts_constraintTags {c : Constraints} (h : c.Legible) :
    TagSet.empty.afterTexts ((constraintTags c).map String.toList) = saying c none false := by
  unfold constraintTags
  simp only [List.map_append, afterTexts_append]
  rw [afterTexts_minimum rfl h.minimum, afterTexts_maximum rfl h.maximum, afterTexts_minLength rfl h.minLength,
    afterTexts_maxLength rfl h.maxLength, afterTexts_pattern rfl h.pattern, afterTexts_format rfl h.format]
  rfl

/-- The tags of a field are read back. -/
theorem afterTexts_fieldTags {s : Schema} {default? : Option Json} (isDeprecated : Bool)
    (hc : s.constraints.Legible) (hd : ∀ d ∈ default?, d.Legible) :
    TagSet.empty.afterTexts ((fieldTags s default? isDeprecated).map String.toList) =
      saying s.constraints default? isDeprecated := by
  unfold fieldTags
  simp only [List.map_append, afterTexts_append]
  rw [schemaTags_eq, afterTexts_constraintTags hc, afterTexts_default rfl hd]
  cases isDeprecated <;> rfl

end TagSet

namespace Annotation

theorem isTagLine_of_mem_option {α : Type} {f : α → String} {x? : Option α}
    (h : ∀ x ∈ x?, IsTagLine (f x).toList) : ∀ l ∈ (x?.map f).toList, IsTagLine l.toList := by
  intro l hl
  obtain ⟨x, hx, rfl⟩ := Option.map_eq_some_iff.mp (Option.mem_toList.mp hl)
  exact h x hx

/-- Every tag of a field is a line that stays as it is. -/
theorem isTagLine_of_mem_fieldTags {s : Schema} {default? : Option Json} (isDeprecated : Bool)
    (hc : s.constraints.Legible) (hd : ∀ d ∈ default?, d.Legible) :
    ∀ l ∈ fieldTags s default? isDeprecated, IsTagLine l.toList := by
  have hline : ∀ (name : List Char) {lead text : String}, lead.toList = '@' :: (name ++ [' ']) →
      name.all Char.isAlpha = true → IsTagValue text.toList → IsTagLine (lead ++ text).toList := by
    intro name lead text hlead hname htext
    rw [toList_tagLine hlead]
    exact isTagLine_tagLine hname htext
  unfold fieldTags
  rw [schemaTags_eq]
  unfold constraintTags
  simp only [List.mem_append]
  rintro l (((((((hl | hl) | hl) | hl) | hl) | hl) | hl) | hl)
  · exact isTagLine_of_mem_option
      (fun x hx => hline "min".toList rfl (by decide) (isTagValue_of_number? (hc.minimum x hx))) l hl
  · exact isTagLine_of_mem_option
      (fun x hx => hline "max".toList rfl (by decide) (isTagValue_of_number? (hc.maximum x hx))) l hl
  · exact isTagLine_of_mem_option
      (fun n _ => hline "minLength".toList rfl (by decide) (isTagValue_toString n)) l hl
  · exact isTagLine_of_mem_option
      (fun n _ => hline "maxLength".toList rfl (by decide) (isTagValue_toString n)) l hl
  · refine isTagLine_of_mem_option (fun p hp => ?_) l hl
    have hvalue := (hc.pattern p hp).1
    rw [breakClosers_eq_self hvalue.closer, String.ofList_toList]
    exact hline "pattern".toList rfl (by decide) hvalue
  · exact isTagLine_of_mem_option
      (fun f hf => hline "format".toList rfl (by decide) (hc.format f hf)) l hl
  · exact isTagLine_of_mem_option (fun d h => hline "default".toList rfl (by decide)
      (isTagValue_compact (hd d h).parsed (hd d h).closer)) l hl
  · split at hl
    · rw [List.mem_singleton.mp hl]
      exact ⟨rfl, by decide, by simp, by decide⟩
    · cases hl

end Annotation

end ServiceGraph
