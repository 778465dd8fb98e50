import ServiceGraph.Proofs.Annotation.Places
import ServiceGraph.Proofs.Graph.WellFormed
import ServiceGraph.Proofs.Schema.Built
import ServiceGraph.Proofs.Shape.Places

/-!
Where the texts of tags come from.

A pattern or a format that a comment sets is, as it stands, the value of a tag on one of the comment's lines
(`TagSet.texts_ofDoc`): of the tag's own branch one text is kept and nothing is decoded. A pattern can be
read besides. All annotations that an analysis uses are read from comments of its file
(`Analysis.every_ofDoc`).
-/

namespace ServiceGraph

open Syntax

/-! ## 1. Tags -/

namespace Annotation

/-- A text that is the value of a tag, and not empty, on one of the lines. -/
structure IsValueIn (lines : List ContentLine) (text : String) : Prop where
  ne_nil : text.toList ≠ []
  line : ∃ l ∈ lines, ∃ name, tagOfLine? l.text = some (name, text.toList)

theorem IsValueIn.cons {line : ContentLine} {lines : List ContentLine} {text : String}
    (h : IsValueIn lines text) : IsValueIn (line :: lines) text :=
  ⟨h.ne_nil, h.line.imp fun _ hl => ⟨List.mem_cons_of_mem _ hl.1, hl.2⟩⟩

end Annotation

namespace TagSet

open Annotation

/-- The texts among the values of tags satisfy a condition, and patterns can be read. -/
structure Texts (ok : String → Prop) (tags : TagSet) : Prop where
  readable : ∀ t ∈ tags.pattern?, Pattern.isValid t.value = true
  pattern : ∀ t ∈ tags.pattern?, ok t.value
  format : ∀ t ∈ tags.format?, ok t.value

variable {ok : String → Prop} {tags : TagSet}

theorem texts_empty : TagSet.empty.Texts ok := ⟨by simp [empty], by simp [empty], by simp [empty]⟩

theorem Texts.mono {ok' : String → Prop} (h : tags.Texts ok) (hok : ∀ text, ok text → ok' text) :
    tags.Texts ok' :=
  ⟨h.readable, fun t ht => hok _ (h.pattern t ht), fun t ht => hok _ (h.format t ht)⟩

/-- One tag line sets a text only to its own value. -/
theorem texts_applyTag (h : tags.Texts ok) (name : List Char) {value : List Char} (span : Span)
    (hvalue : value ≠ [] → ok (String.ofList value)) : (applyTag tags name value span).1.Texts ok := by
  unfold applyTag
  dsimp only
  split
  case h_5 =>
    split
    · exact h
    · rename_i hne
      split
      · rename_i hvalid
        have hset := hvalue (by simpa using hne)
        exact ⟨fun t ht => Option.mem_some.mp ht ▸ hvalid, fun t ht => Option.mem_some.mp ht ▸ hset, h.format⟩
      · exact h
  case h_6 =>
    split
    · exact h
    · rename_i hne
      have hset := hvalue (by simpa using hne)
      exact ⟨h.readable, h.pattern, fun t ht => Option.mem_some.mp ht ▸ hset⟩
  case h_10 => exact ⟨h.readable, h.pattern, h.format⟩
  case h_11 => exact h
  -- The other tags have no texts that are kept as they stand.
  all_goals split <;> exact ⟨h.readable, h.pattern, h.format⟩

theorem texts_applyTags : ∀ {lines : List ContentLine} {tags : TagSet}, tags.Texts ok →
    (∀ text, IsValueIn lines text → ok text) → (applyTags tags lines).1.Texts ok
  | [], _, h, _ => h
  | line :: rest, tags, h, hok => by
      have hrest : ∀ text, IsValueIn rest text → ok text := fun text ht => hok text ht.cons
      unfold applyTags
      split
      · rename_i name value hline
        refine texts_applyTags (texts_applyTag h name line.span fun hne => ?_) hrest
        exact hok _ ⟨by simpa using hne, line, List.mem_cons_self, name, by simpa using hline⟩
      · exact texts_applyTags h hrest

/-- **The texts of a comment's tags are values on its lines.** -/
theorem texts_ofDoc (doc : Doc) : (ofDoc doc).1.tags.Texts (IsValueIn (contentLines doc)) :=
  texts_applyTags texts_empty fun _ h => h

end TagSet

/-! ## 2. Schemas -/

/-- The texts among the constraints of a node satisfy a condition, and patterns can be read. -/
structure Constraints.Texts (ok : String → Prop) (c : Constraints) : Prop where
  readable : ∀ p ∈ c.pattern?, Pattern.isValid p = true
  pattern : ∀ p ∈ c.pattern?, ok p
  format : ∀ f ∈ c.format?, ok f

namespace Schema

variable {ok : String → Prop}

theorem texts_none : Constraints.none.Texts ok :=
  ⟨by simp [Constraints.none], by simp [Constraints.none], by simp [Constraints.none]⟩

/-- Constraints have their texts from the tags, or had them before. -/
theorem texts_constrained {tags : TagSet} (ht : tags.Texts ok) {s : Schema}
    (hs : s.constraints.Texts ok) : (tags.constrained s).Texts ok where
  readable p hp := (mem_appliedTo hp).elim (fun ⟨t, htag, heq⟩ => heq ▸ ht.readable t htag) (hs.readable p)
  pattern p hp := (mem_appliedTo hp).elim (fun ⟨t, htag, heq⟩ => heq ▸ ht.pattern t htag) (hs.pattern p)
  format f hf := (mem_appliedTo hf).elim (fun ⟨t, htag, heq⟩ => heq ▸ ht.format t htag) (hs.format f)

/-- The texts of all nodes come from tags, but for the format of dates. -/
theorem keptBy_texts (hdate : ok "date-time") :
    KeptBy (fun note => note.tags.Texts ok) (fun n => n.constraints.Texts ok) where
  plain _ := texts_none
  date := ⟨by simp [constraints, Constraints.none], by simp [constraints, Constraints.none],
    fun f hf => Option.mem_some.mp hf ▸ hdate⟩
  enumeration _ := texts_none
  unsupported _ := texts_none
  listOf _ := texts_none
  object _ _ := texts_none
  constrained note hnote n hn := by
    have hc := texts_constrained hnote hn
    cases n with
    | leaf kind c => exact hc
    | list items c => exact hc
    | enumeration values => exact hn
    | object fields => exact hn
    | unsupported reason => exact hn

end Schema

/-! ## 3. Analyses -/

/-- **All annotations of an analysis are read from comments of its file.** -/
theorem Analysis.every_ofDoc (f : SourceFile) :
    (context f).annotations.Every fun a => ∃ doc ∈ f.docs, a = ( Annotation.ofDoc doc).1 := by
  refine ( Annotation.entered_ofShapes (Q := fun _ => True) (fun d hd e he => ⟨e.2, ?_, rfl⟩)
    fun _ _ _ _ _ _ => trivial).entries
  obtain ⟨s, hs, rfl⟩ := List.mem_map.mp hd
  exact SourceFile.docs_subset (ShapeCatalog.decl_mem_shapes hs)
    ( Annotation.okDoc_of_mem_docsOfShape (fun _ hdoc => hdoc) e he)

end ServiceGraph
