import ServiceGraph.Proofs.Emission.Closers
import ServiceGraph.Proofs.Emission.Tags

/-!
What the comments of a file say can be said again.

A line of a comment is trimmed when it is read, so a text that a tag sets can be the value of a tag again
(`Annotation.IsValueIn.isTagValue`), and a description that is made up of such lines is read back as it is
(`Annotation.isDescription_ofDoc`). Lengths are such as can be read. So in every schema of a graph that is read from a
text, what came from comments can be written into comments (`Analysis.sayable`).
-/

namespace ServiceGraph

open Syntax Emission

/-! ## 1. Lines -/

namespace Annotation

variable {d : Doc} {l : ContentLine}

theorem trim_of_mem_contentLines (hl : l ∈ contentLines d) : Text.trim l.text = l.text := by
  obtain ⟨line, -, isFirst, heq⟩ := exists_of_mem_contentLines hl
  rw [heq, text_lineContent]
  exact Text.dropEnds_dropEnds _

/-- What is kept of a line is a part of it. -/
theorem lineContent_isInfix (isFirst : Bool) (line : List Char) : (lineContent isFirst line).text <:+: line := by
  have hlead : Text.dropLead ['/', '*', '*'] (Text.trimStart line) <:+: line :=
    (Text.dropLead_isSuffix _ _).isInfix.trans (List.dropWhile_suffix _).isInfix
  have htail :
      Text.dropTail ['*', '/'] (Text.trimEnd (Text.dropLead ['/', '*', '*'] (Text.trimStart line))) <:+: line :=
    (Text.dropTail_isPrefix _ _).isInfix.trans ((Text.dropEnd_isPrefix _).isInfix.trans hlead)
  have hstart := (List.dropWhile_suffix Text.isWhiteSpace).isInfix.trans htail
  rw [text_lineContent]
  refine (Text.dropEnds_isInfix _).trans ?_
  cases isFirst
  · exact (List.dropWhile_suffix _).isInfix.trans hstart
  · exact hstart

theorem feed_of_mem_contentLines (hl : l ∈ contentLines d) : ∀ c ∈ l.text, c ≠ '\n' := by
  obtain ⟨line, hline, isFirst, heq⟩ := exists_of_mem_contentLines hl
  intro c hc
  have hmem : c ∈ line := (lineContent_isInfix isFirst line).subset (heq ▸ hc)
  simpa using Text.not_of_mem_splitOnChar hline c hmem

/-- What is the value of a tag can be the value of a tag again. -/
theorem IsValueIn.isTagValue (hd : d.IsToken) {text : String} (h : IsValueIn (contentLines d) text) :
    IsTagValue text.toList := by
  obtain ⟨l, hl, name, htag⟩ := h.line
  have hvalue : ∃ rest, rest <:+: l.text ∧ text.toList = Text.trim rest := by
    unfold tagOfLine? at htag
    split at htag
    · rename_i rest heq
      refine ⟨_, ?_, (Prod.mk.inj (Option.some.inj htag)).2.symm⟩
      rw [heq]
      exact (List.dropWhile_suffix _).isInfix.trans (List.suffix_cons _ _).isInfix
    · cases htag
  obtain ⟨rest, hrest, heq⟩ := hvalue
  refine ⟨h.ne_nil, ?_, fun c hc => ?_, h.hasCloser (hasCloser_of_mem_contentLines hd)⟩
  · rw [heq]
    exact Text.dropEnds_dropEnds _
  · rw [heq] at hc
    exact feed_of_mem_contentLines hl c (hrest.subset ((Text.dropEnds_isInfix _).subset hc))

/-! ## 2. Descriptions -/

/-- A trimmed line that is no tag does not look like one. -/
theorem startsTag_of_prefix {s t : List Char} (htrim : Text.trim t = t) (htag : tagOfLine? t = none) (hs : s <+: t) :
    startsTag s = false := by
  match s, t with
  | [], _ => rfl
  | c :: s, [] => simp at hs
  | c :: s, d :: t =>
    obtain rfl := (List.cons_prefix_cons.mp hs).1
    have hink : Text.isWhiteSpace c = false := Text.head_of_dropEnds htrim c rfl
    have hat : c ≠ '@' := by
      rintro rfl
      cases htag
    simp [startsTag, Text.trimStart, hink, hat]

theorem hasCloser_intercalate : ∀ {lines : List (List Char)}, (∀ l ∈ lines, hasCloser l = false) →
    hasCloser (['\n'].intercalate lines) = false
  | [], _ => rfl
  | [l], h => by
      rw [List.intercalate_singleton]
      exact h l List.mem_cons_self
  | l :: next :: rest, h => by
      rw [List.intercalate_cons_cons, List.append_assoc, List.singleton_append,
        hasCloser_append_cons (by decide) (by decide), h l List.mem_cons_self,
        hasCloser_intercalate fun k hk => h k (List.mem_cons_of_mem _ hk)]
      rfl

/-- Kept lines that are no tags, none with the end of a comment, can be put into a comment. -/
theorem AreKept.isCommentSafe {kept : List (List Char)} (h : AreKept kept) (hne : kept ≠ [])
    (hclosed : ∀ l ∈ kept, hasCloser l = false) (htags : ∀ l ∈ kept, tagOfLine? l = none) :
    isCommentSafe (String.ofList (['\n'].intercalate kept)) = true := by
  have hplain : ∀ line ∈ Text.lines (['\n'].intercalate kept), startsTag line = false := by
    intro line hline
    obtain ⟨piece, hpiece, hprefix⟩ := Text.piece_of_mem_lines hline
    rw [h.split_eq hne] at hpiece
    exact startsTag_of_prefix (h.trimmed piece hpiece) (htags piece hpiece) hprefix
  simp only [Emission.isCommentSafe, String.toList_ofList, hasCloser_intercalate hclosed, Bool.not_false,
    Bool.true_and, Bool.not_eq_true', List.any_eq_false]
  exact fun line hline => by simp [hplain line hline]

/-- The description that a comment gives is made of kept lines of it that are no tags. -/
theorem exists_kept_of_description {description : String} (h : (ofDoc d).1.description? = some description) :
    ∃ kept, kept ≠ [] ∧ AreKept kept ∧ (∀ t ∈ kept, tagOfLine? t = none ∧ ∃ l ∈ contentLines d, l.text = t) ∧
      description = String.ofList (['\n'].intercalate kept) := by
  have hlines : describeTexts ((contentLines d).map (·.text)) = some description := (describe_eq _).symm.trans h
  have hmem : ∀ t ∈ ((contentLines d).map (·.text)).filter fun t => (tagOfLine? t).isNone,
      tagOfLine? t = none ∧ ∃ l ∈ contentLines d, l.text = t := by
    intro t ht
    obtain ⟨hmap, hnone⟩ := List.mem_filter.mp ht
    exact ⟨Option.isNone_iff_eq_none.mp hnone, List.mem_map.mp hmap⟩
  have hfeed : ∀ t ∈ ((contentLines d).map (·.text)).filter fun t => (tagOfLine? t).isNone, ∀ c ∈ t, c ≠ '\n' := by
    intro t ht
    obtain ⟨-, l, hl, rfl⟩ := hmem t ht
    exact feed_of_mem_contentLines hl
  have htrimmed : ∀ t ∈ ((contentLines d).map (·.text)).filter fun t => (tagOfLine? t).isNone, Text.trim t = t := by
    intro t ht
    obtain ⟨-, l, hl, rfl⟩ := hmem t ht
    exact trim_of_mem_contentLines hl
  obtain ⟨kept, hne, hsub, hkept, heq⟩ := exists_kept_of_joined hfeed htrimmed hlines
  exact ⟨kept, hne, hkept, fun t ht => hmem t (hsub ht), heq⟩

/-- **The description that a comment gives is read back as it is.** -/
theorem isDescription_ofDoc (hd : d.IsToken) {description : String}
    (h : (ofDoc d).1.description? = some description) : IsDescription description := by
  obtain ⟨kept, hne, hkept, hlines, rfl⟩ := exists_kept_of_description h
  refine ⟨hkept.isCommentSafe hne (fun t ht => ?_) fun t ht => (hlines t ht).1, hkept.normalized_eq hne⟩
  obtain ⟨-, l, hl, rfl⟩ := hlines t ht
  exact hasCloser_of_mem_contentLines hd l hl

end Annotation

/-! ## 3. Tags -/

namespace TagSet

open Annotation

/-- Lengths that can be read. -/
structure Sized (tags : TagSet) : Prop where
  minLength : ∀ t ∈ tags.minLength?, t.value ≤ Json.largestWhole
  maxLength : ∀ t ∈ tags.maxLength?, t.value ≤ Json.largestWhole

theorem le_of_length? {value : List Char} {n : Nat} (h : length? value = some n) : n ≤ Json.largestWhole := by
  unfold length? at h
  split at h
  · dsimp only at h
    split at h
    · rename_i hle
      exact Option.some.inj h ▸ hle
    · cases h
  · cases h

theorem sized_applyTag {tags : TagSet} (h : tags.Sized) (name value : List Char) (span : Span) :
    (applyTag tags name value span).1.Sized := by
  unfold applyTag
  dsimp only
  split
  case h_3 =>
    split
    · rename_i n hn
      exact ⟨fun t ht => Option.mem_some.mp ht ▸ le_of_length? hn, h.maxLength⟩
    · exact h
  case h_4 =>
    split
    · rename_i n hn
      exact ⟨h.minLength, fun t ht => Option.mem_some.mp ht ▸ le_of_length? hn⟩
    · exact h
  case h_10 => exact ⟨h.minLength, h.maxLength⟩
  case h_11 => exact h
  case h_5 =>
    split
    · exact h
    · split <;> exact ⟨h.minLength, h.maxLength⟩
  all_goals split <;> exact ⟨h.minLength, h.maxLength⟩

theorem sized_applyTags : ∀ {lines : List ContentLine} {tags : TagSet}, tags.Sized → (applyTags tags lines).1.Sized
  | [], _, h => h
  | line :: rest, tags, h => by
      unfold applyTags
      split
      · exact sized_applyTags (sized_applyTag h _ _ _)
      · exact sized_applyTags h

theorem sized_ofDoc (doc : Doc) : (ofDoc doc).1.tags.Sized :=
  sized_applyTags ⟨by simp [empty], by simp [empty]⟩

end TagSet

/-! ## 4. Schemas -/

/-- What a comment says can be said again. -/
structure Annotation.Sayable (note : Annotation) : Prop where
  description : ∀ d ∈ note.description?, Annotation.IsDescription d
  texts : note.tags.Texts fun text => Annotation.IsTagValue text.toList
  sized : note.tags.Sized

/-- Constraints that can be said in a comment, but for the bounds of numbers. -/
structure Constraints.Sayable (c : Constraints) : Prop where
  texts : c.Texts fun text => Annotation.IsTagValue text.toList
  minLength : ∀ n ∈ c.minLength?, n ≤ Json.largestWhole
  maxLength : ∀ n ∈ c.maxLength?, n ≤ Json.largestWhole

namespace Schema

/-- What came from comments can be said in comments. -/
structure Sayable (n : Schema) : Prop where
  constraints : n.constraints.Sayable
  descriptions : ∀ fields, n = .object fields → ∀ f ∈ fields, ∀ d ∈ f.description?, Annotation.IsDescription d

theorem sayable_none : Constraints.none.Sayable :=
  ⟨texts_none, by simp [Constraints.none], by simp [Constraints.none]⟩

theorem sayable_constrained {note : Annotation} (hnote : note.Sayable) {s : Schema} (hs : s.constraints.Sayable) :
    (note.tags.constrained s).Sayable where
  texts := texts_constrained hnote.texts hs.texts
  minLength n hn :=
    (mem_appliedTo hn).elim (fun ⟨t, htag, heq⟩ => heq ▸ hnote.sized.minLength t htag) (hs.minLength n)
  maxLength n hn :=
    (mem_appliedTo hn).elim (fun ⟨t, htag, heq⟩ => heq ▸ hnote.sized.maxLength t htag) (hs.maxLength n)

theorem keptBy_sayable : KeptBy Annotation.Sayable Sayable where
  plain _ := ⟨sayable_none, by simp [Schema.plain]⟩
  date := by
    have htag : Annotation.IsTagValue "date-time".toList := ⟨by decide, by decide +kernel, by simp, by decide⟩
    refine ⟨⟨⟨by simp [Schema.constraints, Constraints.none], by simp [Schema.constraints, Constraints.none],
      fun f hf => Option.mem_some.mp hf ▸ htag⟩, ?_, ?_⟩, by simp⟩ <;>
      simp [Schema.constraints, Constraints.none]
  enumeration _ := ⟨sayable_none, by simp⟩
  unsupported _ := ⟨sayable_none, by simp⟩
  listOf _ := ⟨sayable_none, by simp [Schema.listOf]⟩
  object fields h := by
    refine ⟨sayable_none, fun fields' heq f hf d hd => ?_⟩
    cases heq
    rcases h f hf with ⟨hnone, -⟩ | ⟨note, hnote, hdescription, -⟩
    · rw [hnone] at hd
      cases hd
    · exact hnote.description d (hdescription ▸ hd)
  constrained note hnote n hn := by
    have hc := sayable_constrained hnote hn.constraints
    cases n with
    | leaf kind c => exact ⟨hc, by simp [withConstraints]⟩
    | list items c => exact ⟨hc, by simp [withConstraints]⟩
    | enumeration values => exact hn
    | object fields => exact hn
    | unsupported reason => exact hn

end Schema

/-! ## 5. Analyses -/

theorem Analysis.sayable_annotations (text : String) :
    (context (SourceFile.read text)).annotations.Every Annotation.Sayable := by
  intro e he
  obtain ⟨doc, hdoc, heq⟩ := every_ofDoc _ e he
  have htoken := SourceFile.isToken_of_mem_docs text doc hdoc
  rw [heq]
  exact ⟨fun d hd => Annotation.isDescription_ofDoc htoken hd,
    (TagSet.texts_ofDoc doc).mono fun _ hvalue => hvalue.isTagValue htoken, TagSet.sized_ofDoc doc⟩

/-- **Whatever came into a graph from the comments of a text can be written into comments.** -/
theorem Analysis.sayable (text : String) : ∀ n, (ofText text).graph.HasNode n → n.Sayable := by
  rintro n ⟨root, hroot, hn⟩
  exact (built_of_mem_roots (sayable_annotations text) root hroot).everywhere Schema.keptBy_sayable n hn

end ServiceGraph
