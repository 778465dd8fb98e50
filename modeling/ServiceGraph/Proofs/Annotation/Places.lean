import ServiceGraph.Proofs.Annotation.Values
import ServiceGraph.Proofs.Source.Coherent
import ServiceGraph.Proofs.Syntax.Places
import ServiceGraph.Proofs.Text.Lines

/-!
Where the lines of a comment stand.

A line is cut into a piece in several steps, each of which keeps count of what it drops in front
(`Piece.StandsIn`). So if a comment is what the text holds at its place, every one of its lines agrees
with the text as well (`coherent_of_mem_contentLines`), whatever characters and line ends it is written with. Tags,
and what is wrong with them, have the places of their lines (`sited_ofDoc`).
-/

namespace ServiceGraph

open Syntax Text

/-- A comment that is what a text holds at its place. -/
structure Syntax.Doc.Coherent (text : List UInt8) (d : Doc) : Prop where
  span : d.span.Coherent text
  slice : bytes d.text.toList = (text.drop d.span.start).take (d.span.stop - d.span.start)

namespace Annotation

/-! ## 1. Pieces of lines -/

/-- A piece stands in a line behind as many bytes as it says. -/
def Piece.StandsIn (line : List Char) (p : Piece) : Prop :=
  ∃ front back, line = front ++ p.text ++ back ∧ byteLength front = p.offset

namespace Piece.StandsIn

variable {line : List Char} {p : Piece}

theorem whole (line : List Char) : (Piece.mk 0 line).StandsIn line := ⟨[], [], by simp, rfl⟩

/-- A piece may lose something behind. -/
theorem of_isPrefix (h : p.StandsIn line) {kept : List Char} (hkept : kept <+: p.text) :
    (Piece.mk p.offset kept).StandsIn line := by
  obtain ⟨front, back, heq, hlength⟩ := h
  obtain ⟨dropped, hdropped⟩ := hkept
  exact ⟨front, dropped ++ back, by simp [heq, ← hdropped], hlength⟩

/-- A piece may lose something in front that is counted. -/
theorem of_append (h : p.StandsIn line) {dropped kept : List Char} (heq : p.text = dropped ++ kept) :
    (Piece.mk (p.offset + byteLength dropped) kept).StandsIn line := by
  obtain ⟨front, back, hline, hlength⟩ := h
  exact ⟨front ++ dropped, back, by simp [hline, heq], by simp [hlength]⟩

theorem dropWhile (h : p.StandsIn line) (test : Char → Bool) : (p.dropWhile test).StandsIn line :=
  h.of_append List.takeWhile_append_dropWhile.symm

theorem trimStart (h : p.StandsIn line) : p.trimStart.StandsIn line := h.dropWhile _

theorem trimEnd (h : p.StandsIn line) : p.trimEnd.StandsIn line :=
  h.of_isPrefix (dropEnd_isPrefix _)

theorem trim (h : p.StandsIn line) : p.trim.StandsIn line := by
  unfold Piece.trim
  split
  · exact h.of_isPrefix List.nil_prefix
  · exact h.trimStart.trimEnd

theorem dropLead (h : p.StandsIn line) (lead : List Char) : (p.dropLead lead).StandsIn line := by
  unfold Piece.dropLead stripLead?
  split
  · rename_i rest hrest
    split at hrest
    · rename_i hlead
      cases hrest
      obtain ⟨kept, hkept⟩ := List.isPrefixOf_iff_prefix.mp hlead
      refine h.of_append ?_
      rw [← hkept, List.drop_left]
    · cases hrest
  · exact h

theorem dropTail (h : p.StandsIn line) (tail : List Char) : (p.dropTail tail).StandsIn line := by
  unfold Piece.dropTail Text.dropTail
  refine h.of_isPrefix ?_
  split
  · exact List.take_prefix _ _
  · exact List.prefix_rfl

end Piece.StandsIn

/-- The content of a line stands in the line. -/
theorem standsIn_lineContent (isFirst : Bool) (line : List Char) :
    (lineContent isFirst line).StandsIn line := by
  have hbody := ((((Piece.StandsIn.whole line).trimStart.dropLead ['/', '*', '*']).trimEnd).dropTail
    ['*', '/']).trimStart
  unfold lineContent
  cases isFirst with
  | true => exact hbody.trim
  | false => exact (hbody.dropWhile _).trim

/-! ## 2. Lines of comments -/

variable {text : List UInt8} {doc : Doc}

/-- A part of a comment lies in the text, behind what stands in front of it in the comment. -/
theorem take_of_part (h : doc.Coherent text) {front part back : List Char}
    (heq : doc.text.toList = front ++ part ++ back) :
    doc.span.start + byteLength front + byteLength part ≤ text.length ∧
      text.take (doc.span.start + byteLength front) = text.take doc.span.start ++ bytes front := by
  have hstart : (text.take doc.span.start).length = doc.span.start := by
    rw [List.length_take]
    have := h.span.ordered
    have := h.span.within
    omega
  obtain ⟨behind, hbehind⟩ : ∃ behind, text.drop doc.span.start = bytes doc.text.toList ++ behind :=
    ⟨_, by rw [h.slice, List.take_append_drop]⟩
  have htext : text = text.take doc.span.start ++ bytes front ++
      (bytes part ++ (bytes back ++ behind)) := by
    calc text = text.take doc.span.start ++ text.drop doc.span.start :=
          (List.take_append_drop _ _).symm
      _ = _ := by simp [hbehind, heq]
  have hfront : (text.take doc.span.start ++ bytes front).length = doc.span.start + byteLength front := by
    rw [List.length_append, hstart, length_bytes]
  constructor
  · rw [htext, List.length_append, hfront, List.length_append, length_bytes]
    omega
  · conv_lhs => rw [htext]
    exact List.take_left' hfront

/-- A piece of a line of a comment is coherent, where `done` stands in front of the line. -/
theorem coherent_of_standsIn (h : doc.Coherent text) {done line below : List Char} {p : Piece}
    (heq : doc.text.toList = done ++ line ++ below) (hline : '\n' ∉ line) (hp : p.StandsIn line)
    (hdone : done = [] ∨ ∃ above, done = above ++ ['\n']) {index : Nat}
    (hindex : (bytes done).count lineFeed = index) :
    let place := doc.span.start + byteLength done + p.offset
    Span.Coherent text ⟨place, place + byteLength p.text, doc.span.line + index,
      if index = 0 then doc.span.column + p.offset else p.offset + 1⟩ := by
  obtain ⟨front, back, hpiece, hoffset⟩ := hp
  have hfront : lineFeed ∉ bytes front := lineFeed_not_mem_bytes fun hmem => hline (by simp [hpiece, hmem])
  have hpart : doc.text.toList = done ++ front ++ p.text ++ (back ++ below) := by simp [heq, hpiece]
  obtain ⟨hwithin, htake⟩ := take_of_part h hpart
  rw [byteLength_append, ← Nat.add_assoc, hoffset] at hwithin htake
  refine ⟨Nat.le_add_right _ _, hwithin, ?_, ?_⟩
  · dsimp only
    rw [htake, bytes_append, ← List.append_assoc, count_of_no_lineFeed hfront, List.count_append,
      hindex, h.span.line, Nat.add_assoc]
  · dsimp only
    rw [htake]
    rcases hdone with rfl | ⟨above, rfl⟩
    · rw [if_pos (by simpa using hindex.symm), List.nil_append, sinceLineFeed_append hfront,
        length_bytes, h.span.column, hoffset, Nat.add_assoc]
    · have hpos : index ≠ 0 := by
        rw [← hindex]
        simp
      rw [if_neg hpos, bytes_append, bytes_append, bytes_lineFeed, ← List.append_assoc,
        ← List.append_assoc, sinceLineFeed_append_lineFeed hfront, length_bytes, hoffset, Nat.add_comm]

/-- The lines of a comment from one of them on, where `done` stands in front of it. -/
theorem coherent_of_mem_contentLinesFrom (h : doc.Coherent text) :
    ∀ (lines : List (List Char)) (done : List Char) (index : Nat),
      doc.text.toList = done ++ ['\n'].intercalate lines → (∀ line ∈ lines, '\n' ∉ line) →
      (bytes done).count lineFeed = index → (done = [] ∨ ∃ above, done = above ++ ['\n']) →
      ∀ l ∈ contentLinesFrom doc.span index (byteLength done) lines, l.span.Coherent text
  | [], _, _, _, _, _, _, _, hl => by simp [contentLinesFrom] at hl
  | line :: rest, done, index, heq, hlines, hindex, hdone, l, hl => by
      have hline := hlines line List.mem_cons_self
      rw [contentLinesFrom] at hl
      rcases List.mem_cons.mp hl with rfl | hl
      · obtain ⟨below, hbelow⟩ : ∃ below, ['\n'].intercalate (line :: rest) = line ++ below := by
          cases rest with
          | nil => exact ⟨[], by simp⟩
          | cons next rest => exact ⟨_, by rw [List.intercalate_cons_cons, List.append_assoc]⟩
        exact coherent_of_standsIn h (by rw [heq, hbelow, List.append_assoc]) hline
          (standsIn_lineContent _ line) hdone hindex
      · cases rest with
        | nil => simp [contentLinesFrom] at hl
        | cons next rest =>
          -- the line and its line feed now stand in front as well
          have hlength : byteLength (done ++ line ++ ['\n']) = byteLength done + byteLength line + 1 := by
            rw [byteLength_append, byteLength_append]
            rfl
          rw [← hlength] at hl
          refine coherent_of_mem_contentLinesFrom h (next :: rest) (done ++ line ++ ['\n']) (index + 1)
            ?_ (fun l hl => hlines l (List.mem_cons_of_mem _ hl)) ?_ (.inr ⟨_, rfl⟩) l hl
          · rw [heq, List.intercalate_cons_cons]
            simp
          · rw [bytes_append, bytes_append, List.count_append,
              count_of_no_lineFeed (lineFeed_not_mem_bytes hline), hindex]
            rfl

/-- **The lines of a coherent comment are coherent.** -/
theorem coherent_of_mem_contentLines (h : doc.Coherent text) :
    ∀ l ∈ contentLines doc, l.span.Coherent text := by
  refine coherent_of_mem_contentLinesFrom h _ [] 0 ?_ ?_ rfl (.inl rfl)
  · exact (intercalate_splitOnChar (by simp) _).symm
  · intro line hline hmem
    have := not_of_mem_splitOnChar hline _ hmem
    simp at this

/-! ## 3. Tags -/

end Annotation

/-- All places of tags satisfy a condition. -/
structure TagSet.Sited (ok : Span → Prop) (tags : TagSet) : Prop where
  minimum : ∀ t ∈ tags.minimum?, ok t.span
  maximum : ∀ t ∈ tags.maximum?, ok t.span
  minLength : ∀ t ∈ tags.minLength?, ok t.span
  maxLength : ∀ t ∈ tags.maxLength?, ok t.span
  pattern : ∀ t ∈ tags.pattern?, ok t.span
  format : ∀ t ∈ tags.format?, ok t.span
  values : ∀ t ∈ tags.enumValues?, ok t.span
  required : ∀ t ∈ tags.required?, ok t.span
  default : ∀ t ∈ tags.default?, ok t.span

namespace Annotation

variable {ok : Span → Prop}

theorem sited_empty : TagSet.empty.Sited ok := by constructor <;> simp [TagSet.empty]

/-- A tag is set at the place of its line, and the other tags stay where they are. -/
theorem sited_applyTag {tags : TagSet} (h : tags.Sited ok) (name value : List Char) {span : Span}
    (hspan : ok span) : (applyTag tags name value span).1.Sited ok := by
  have hset : ∀ {α : Type} (x : α), ∀ t ∈ some (Tagged.mk x span), ok t.span := by
    intro α x t ht
    exact Option.some.inj ht ▸ hspan
  unfold applyTag
  dsimp only
  split
  · split
    · exact { h with minimum := hset _ }
    · exact h
  · split
    · exact { h with maximum := hset _ }
    · exact h
  · split
    · exact { h with minLength := hset _ }
    · exact h
  · split
    · exact { h with maxLength := hset _ }
    · exact h
  · split
    · exact h
    · split
      · exact { h with pattern := hset _ }
      · exact h
  · split
    · exact h
    · exact { h with format := hset _ }
  · split
    · exact h
    · exact { h with values := hset _ }
  · split
    · exact { h with required := hset _ }
    · exact { h with required := hset _ }
    · exact { h with required := hset _ }
    · exact h
  · split
    · exact h
    · exact { h with default := hset _ }
  · exact { h with }
  · exact h

/-- What is wrong with a tag is wrong on its line. -/
theorem span_of_mem_applyTag {tags : TagSet} {name value : List Char} {span : Span} :
    ∀ d ∈ (applyTag tags name value span).2, d.span = span := by
  unfold applyTag malformed
  dsimp only
  split
  all_goals (repeat' split)
  all_goals simp

theorem sited_applyTags : ∀ {lines : List ContentLine} {tags : TagSet},
    (∀ l ∈ lines, ok l.span) → tags.Sited ok →
    (applyTags tags lines).1.Sited ok ∧ ∀ d ∈ (applyTags tags lines).2, ok d.span
  | [], _, _, h => ⟨h, by simp [applyTags]⟩
  | line :: rest, tags, hlines, h => by
      have hrest : ∀ l ∈ rest, ok l.span := fun l hl => hlines l (List.mem_cons_of_mem _ hl)
      have hline := hlines line List.mem_cons_self
      unfold applyTags
      split
      · rename_i name value _
        obtain ⟨htags, hproblems⟩ := sited_applyTags hrest (sited_applyTag h name value hline)
        refine ⟨htags, fun d hd => ?_⟩
        rcases List.mem_append.mp hd with hd | hd
        · exact span_of_mem_applyTag d hd ▸ hline
        · exact hproblems d hd
      · exact sited_applyTags hrest h

/-- What a comment says and what is wrong with it stands on its lines. -/
theorem sited_ofDoc (h : ∀ l ∈ contentLines doc, ok l.span) :
    (ofDoc doc).1.tags.Sited ok ∧ ∀ d ∈ (ofDoc doc).2, ok d.span :=
  sited_applyTags h sited_empty

/-! ## 4. Shapes -/

section

variable {okDoc : Doc → Prop}

/-- All comments in a type satisfy a condition. -/
abbrev Documented (okDoc : Doc → Prop) : TypeExpr → Prop :=
  TypeExpr.Everywhere fun u => ∀ d ∈ u.docs, okDoc d

mutual

/-- The comments that are read stand in the type. -/
theorem documented_docsOfType {path : String} (t : TypeExpr) (h : Documented okDoc t) :
    ∀ e ∈ docsOfType path t, okDoc e.2 := by
  match t, h with
  | .object span fields skipped, h =>
    rw [docsOfType]
    refine documented_docsOfFields fields (fun f hf d hd => ?_) fun f hf t ht => h.field hf ht
    exact h.self d (List.mem_filterMap.mpr ⟨f, hf, hd⟩)
  | .array span item, h =>
    rw [docsOfType]
    exact documented_docsOfType item h.item
  | .reference span name args, h =>
    rw [docsOfType]
    split
    · exact documented_docsOfTypes args fun t ht => h.argument ht
    · simp
  | .union span items, h =>
    rw [docsOfType]
    exact documented_docsOfTypes items fun t ht => h.unionMember ht
  | .intersection span items, h =>
    rw [docsOfType]
    exact documented_docsOfTypes items fun t ht => h.intersectionMember ht
  | .keyword _ _, _ => simp [docsOfType]
  | .literal _ _, _ => simp [docsOfType]
  | .tuple _ _, _ => simp [docsOfType]
  | .function _, _ => simp [docsOfType]
  | .other _ _, _ => simp [docsOfType]

theorem documented_docsOfTypes {path : String} (items : List TypeExpr)
    (h : ∀ t ∈ items, Documented okDoc t) : ∀ e ∈ docsOfTypes path items, okDoc e.2 := by
  match items with
  | [] => simp [docsOfTypes]
  | t :: rest =>
    intro e he
    rw [docsOfTypes] at he
    rcases List.mem_append.mp he with he | he
    · exact documented_docsOfType t (h t List.mem_cons_self) e he
    · exact documented_docsOfTypes rest (fun u hu => h u (List.mem_cons_of_mem _ hu)) e he

theorem documented_docsOfFields {path : String} (fields : List (FieldOf TypeExpr))
    (hdocs : ∀ f ∈ fields, ∀ d ∈ f.doc?, okDoc d)
    (htypes : ∀ f ∈ fields, ∀ t ∈ f.type?, Documented okDoc t) :
    ∀ e ∈ docsOfFields path fields, okDoc e.2 := by
  match fields with
  | [] => simp [docsOfFields]
  | f :: rest =>
    intro e he
    rw [docsOfFields] at he
    rcases List.mem_append.mp he with he | he
    · exact documented_docsOfField f (hdocs f List.mem_cons_self) (htypes f List.mem_cons_self) e he
    · exact documented_docsOfFields rest (fun g hg => hdocs g (List.mem_cons_of_mem _ hg))
        (fun g hg => htypes g (List.mem_cons_of_mem _ hg)) e he

theorem documented_docsOfField {path : String} (f : FieldOf TypeExpr) (hdoc : ∀ d ∈ f.doc?, okDoc d)
    (htype : ∀ t ∈ f.type?, Documented okDoc t) : ∀ e ∈ docsOfField path f, okDoc e.2 := by
  match f with
  | ⟨name, isOptional, isReadonly, type?, doc?, span⟩ =>
    intro e he
    rw [docsOfField] at he
    rcases List.mem_append.mp he with he | he
    · obtain ⟨d, hd, rfl⟩ := List.mem_map.mp he
      exact hdoc d (Option.mem_toList.mp hd)
    · match type? with
      | some t =>
        rw [docsOfOption] at he
        exact documented_docsOfType t (htype t rfl) e he
      | none => simp [docsOfOption] at he

end

theorem okDoc_of_mem_docsOfShape {d : ShapeDecl} (h : ∀ doc ∈ d.docs, okDoc doc) :
    ∀ e ∈ docsOfShape d, okDoc e.2 := by
  have htype : Documented okDoc d.type := by
    intro u hu doc hdoc
    refine h doc (List.mem_append_right _ (List.mem_flatMap.mpr ⟨d.type, List.mem_cons_self, ?_⟩))
    exact List.mem_flatMap.mpr ⟨u, hu, hdoc⟩
  intro e he
  rcases List.mem_append.mp he with he | he
  · obtain ⟨doc, hdoc, rfl⟩ := List.mem_map.mp he
    exact h doc (List.mem_append_left _ hdoc)
  · exact documented_docsOfType d.type htype e he

end

/-- The annotations of shapes, and what is wrong with their comments, stand on lines of these. -/
theorem entered_sited {shapes : List ShapeDecl}
    (h : ∀ d ∈ shapes, ∀ doc ∈ d.docs, ∀ l ∈ contentLines doc, ok l.span) :
    Entered (·.tags.Sited ok) (fun d => ok d.span) (ofShapes shapes) :=
  entered_ofShapes
    (fun d hd e he => (sited_ofDoc (okDoc_of_mem_docsOfShape (h d hd) e he)).1)
    (fun d hd e he => (sited_ofDoc (okDoc_of_mem_docsOfShape (h d hd) e he)).2)

end Annotation

end ServiceGraph
