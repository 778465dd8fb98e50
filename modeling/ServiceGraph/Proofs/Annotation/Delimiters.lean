import ServiceGraph.Proofs.Emission.Sayable

/-!
The delimiters of a comment are no part of what it says.

Opening and end are dropped line by line, by two tests that know nothing of each other. On a line that has room for both
of them, what is left stands between them (`Annotation.standsIn_lineContent_closing`). The one line without room is an
opening and an end that share a star: there the opening is dropped first, and of the end a slash is left over
(`Annotation.lineContent_of_shared`). So the lines of a comment lie between its delimiters exactly if its last line is
not such a one, and then everything that the comment says is taken from there (`Annotation.content_enclosed_iff`).
-/

namespace ServiceGraph

open Syntax Emission
open Text (byteLength byteLength_append)

/-! ## 1. Comments with delimiters -/

namespace Syntax

/-- A comment that can document something: it starts with a slash and two stars, it ends with a star and a slash, and
from its third character on there is no other end of a comment in it. -/
structure Doc.IsDelimited (d : Doc) : Prop where
  opening : ['/', '*', '*'] <+: d.text.toList
  closing : ['*', '/'] <:+ d.text.toList
  single : hasCloser (d.text.toList.drop 2).dropLast = false

/-- The last line of a comment is, behind white space, an opening and an end that share a star. -/
def Doc.SharesStar (d : Doc) : Prop :=
  ∃ line ∈ (Text.splitOnChar (· = '\n') d.text.toList).getLast?, Text.trimStart line = ['/', '*', '*', '/']

/-- A stretch behind the three characters of a comment's opening and in front of the two of its end. -/
structure Doc.Encloses (d : Doc) (s : Span) : Prop where
  behind : d.span.start + 3 ≤ s.start
  ordered : s.start ≤ s.stop
  before : s.stop + 2 ≤ d.span.start + byteLength d.text.toList

/-- **A comment that is a token has its delimiters.** -/
theorem Doc.IsToken.isDelimited {d : Doc} (h : d.IsToken) : d.IsDelimited := by
  obtain ⟨s, htext, hs⟩ := h.exists_body
  obtain ⟨t, -, hprefix, rfl⟩ := h
  obtain ⟨rest, hrest⟩ := List.isPrefixOf_iff_prefix.mp hprefix
  have hopening : t.text.toList = '/' :: '*' :: '*' :: rest := hrest.symm
  refine ⟨⟨rest, hrest⟩, ⟨s, htext.symm⟩, ?_⟩
  have hlast : t.text.toList.dropLast = s ++ ['*'] := by
    rw [show t.text.toList = (s ++ ['*']) ++ ['/'] by simpa using htext, List.dropLast_concat]
  refine hasCloser_of_isInfix ?_ hs
  rw [← hlast, hopening]
  exact ⟨['/', '*'], [], by simp⟩

/-- **Whatever documents something in a file has its delimiters.** -/
theorem SourceFile.isDelimited_of_mem_docs (source : String) : ∀ d ∈ (SourceFile.read source).docs, d.IsDelimited :=
  fun d hd => (SourceFile.isToken_of_mem_docs source d hd).isDelimited

end Syntax

namespace Annotation

/-! ## 2. Openings and ends of lines -/

variable {d : Doc} {l : ContentLine} {line s t : List Char} {c : Char}

theorem offset_le_trim (p : Piece) : p.offset ≤ p.trim.offset := by
  unfold Piece.trim
  split
  · exact le_rfl
  · exact Nat.le_add_right _ _

/-- What is left of the first line stands behind the opening. -/
theorem opening_le_offset (s : List Char) : 3 ≤ (lineContent true ('/' :: '*' :: '*' :: s)).offset := by
  calc 3 ≤ ((Piece.mk 3 s).trimEnd.dropTail ['*', '/']).trimStart.offset := Nat.le_add_right 3 _
    _ ≤ ((Piece.mk 3 s).trimEnd.dropTail ['*', '/']).trimStart.trim.offset := offset_le_trim _
    _ = (lineContent true ('/' :: '*' :: '*' :: s)).offset := rfl

theorem trimStart_append_closing (p : Piece) :
    (Piece.mk p.offset (p.text ++ ['*', '/'])).trimStart = ⟨p.trimStart.offset, p.trimStart.text ++ ['*', '/']⟩ := by
  have hsplit : ∀ s : List Char,
      (s ++ ['*', '/']).takeWhile Text.isWhiteSpace = s.takeWhile Text.isWhiteSpace ∧
        (s ++ ['*', '/']).dropWhile Text.isWhiteSpace = s.dropWhile Text.isWhiteSpace ++ ['*', '/'] := by
    intro s
    induction s with
    | nil => decide
    | cons c s ih => cases hc : Text.isWhiteSpace c <;> simp [hc, ih]
  simp only [Piece.trimStart, Piece.dropWhile, hsplit]

/-- An opening in front of an end is one without it, unless they share a star. -/
theorem dropLead_append_closing (p : Piece) (h : p.text ++ ['*', '/'] ≠ ['/', '*', '*', '/']) :
    (Piece.mk p.offset (p.text ++ ['*', '/'])).dropLead ['/', '*', '*'] =
      ⟨(p.dropLead ['/', '*', '*']).offset, (p.dropLead ['/', '*', '*']).text ++ ['*', '/']⟩ := by
  obtain ⟨offset, text⟩ := p
  match text, h with
  | [], _ => simp [Piece.dropLead, Text.stripLead?]
  | [a], _ => simp [Piece.dropLead, Text.stripLead?]
  | [a, b], h =>
    have hnot : ¬ ('/' = a ∧ '*' = b) := by
      rintro ⟨rfl, rfl⟩
      exact h rfl
    simp [Piece.dropLead, Text.stripLead?, hnot]
  | a :: b :: c :: rest, _ =>
    by_cases hlead : '/' = a ∧ '*' = b ∧ '*' = c
    · obtain ⟨rfl, rfl, rfl⟩ := hlead
      rfl
    · simp [Piece.dropLead, Text.stripLead?, hlead]

/-- **What is left of a line that ends a comment stands in front of the end**, if the line has room for an opening. -/
theorem standsIn_lineContent_closing (isFirst : Bool) (h : Text.trimStart (s ++ ['*', '/']) ≠ ['/', '*', '*', '/']) :
    (lineContent isFirst (s ++ ['*', '/'])).StandsIn s := by
  have htrim := trimStart_append_closing ⟨0, s⟩
  have hroom : (Piece.mk 0 s).trimStart.text ++ ['*', '/'] ≠ ['/', '*', '*', '/'] := by
    intro heq
    exact h ((congrArg Piece.text htrim).trans heq)
  have hlead := dropLead_append_closing _ hroom
  have hstands : ((Piece.mk 0 s).trimStart.dropLead ['/', '*', '*']).StandsIn s :=
    (Piece.StandsIn.whole s).trimStart.dropLead _
  -- Behind the opening nothing is dropped but the end.
  have hbody : (((Piece.mk 0 (s ++ ['*', '/'])).trimStart.dropLead ['/', '*', '*']).trimEnd.dropTail ['*', '/']) =
      (Piece.mk 0 s).trimStart.dropLead ['/', '*', '*'] := by
    rw [htrim, hlead, Piece.trimEnd, Piece.dropTail, trimEnd_closing, dropTail_append]
  unfold lineContent
  rw [hbody]
  cases isFirst with
  | true => exact hstands.trimStart.trim
  | false => exact (hstands.trimStart.dropWhile _).trim

/-- **Where opening and end share a star, a slash is left over**, at the end of the line. -/
theorem lineContent_of_shared (isFirst : Bool) (h : Text.trimStart line = ['/', '*', '*', '/']) :
    (lineContent isFirst line).text = ['/'] ∧ (lineContent isFirst line).offset + 1 = byteLength line := by
  have hline : line = line.takeWhile Text.isWhiteSpace ++ ['/', '*', '*', '/'] := by
    rw [← h, Text.trimStart, List.takeWhile_append_dropWhile]
  have htrim : (Piece.mk 0 line).trimStart = ⟨byteLength (line.takeWhile Text.isWhiteSpace), ['/', '*', '*', '/']⟩ := by
    rw [← h, Piece.trimStart, Piece.dropWhile, Nat.zero_add, Text.trimStart]
  have hcontent : lineContent isFirst line = ⟨byteLength (line.takeWhile Text.isWhiteSpace) + 3, ['/']⟩ := by
    unfold lineContent
    rw [htrim]
    cases isFirst <;> rfl
  refine ⟨by rw [hcontent], ?_⟩
  rw [hcontent]
  conv_rhs => rw [hline, byteLength_append]
  rfl

/-! ## 3. Where lines stand -/

/-- Lines with the line feeds behind them. -/
def stacked (lines : List (List Char)) : List Char := lines.flatMap (· ++ ['\n'])

/-- Lines with the line feeds in front of them. -/
def hung (lines : List (List Char)) : List Char := lines.flatMap ('\n' :: ·)

theorem byteLength_stacked_cons (first : List Char) (above : List (List Char)) :
    byteLength (stacked (first :: above)) = byteLength first + 1 + byteLength (stacked above) := by
  change byteLength ((first ++ ['\n']) ++ stacked above) = _
  rw [byteLength_append, byteLength_append]
  rfl

theorem intercalate_split (above : List (List Char)) (line : List Char) (below : List (List Char)) :
    ['\n'].intercalate (above ++ line :: below) = stacked above ++ line ++ hung below := by
  induction above with
  | nil =>
    induction below generalizing line with
    | nil => simp [stacked, hung]
    | cons next below ih =>
      rw [List.nil_append, List.intercalate_cons_cons, ← List.nil_append (next :: below), ih]
      simp [stacked, hung]
  | cons first above ih =>
    have hne : above ++ line :: below ≠ [] := by simp
    rw [List.cons_append, List.intercalate_cons_of_ne_nil hne, ih]
    simp [stacked]

/-- The content of a line, where the line stands at a place of a comment. -/
def placedLine (doc : Span) (index start : Nat) (line : List Char) : ContentLine :=
  let p := lineContent (index = 0) line
  let place := doc.start + start + p.offset
  ⟨p.text, ⟨place, place + byteLength p.text, doc.line + index,
    if index = 0 then doc.column + p.offset else p.offset + 1⟩⟩

theorem mem_contentLinesFrom {doc : Span} {lines : List (List Char)} {index start : Nat} :
    l ∈ contentLinesFrom doc index start lines ↔ ∃ above line below, lines = above ++ line :: below ∧
      l = placedLine doc (index + above.length) (start + byteLength (stacked above)) line := by
  induction lines generalizing index start with
  | nil => simp [contentLinesFrom]
  | cons first rest ih =>
    have hstep : contentLinesFrom doc index start (first :: rest) =
        placedLine doc index start first ::
          contentLinesFrom doc (index + 1) (start + byteLength first + 1) rest := rfl
    have hlength : ∀ above, start + byteLength first + 1 + byteLength (stacked above) =
        start + byteLength (stacked (first :: above)) := by
      intro above
      rw [byteLength_stacked_cons]
      omega
    rw [hstep, List.mem_cons, ih]
    constructor
    · rintro (rfl | ⟨above, line, below, rfl, rfl⟩)
      · exact ⟨[], first, rest, rfl, rfl⟩
      · refine ⟨first :: above, line, below, rfl, ?_⟩
        rw [hlength, List.length_cons, Nat.add_right_comm, Nat.add_assoc]
    · rintro ⟨above, line, below, heq, rfl⟩
      cases above with
      | nil =>
        obtain ⟨rfl, -⟩ := List.cons.inj heq
        exact .inl rfl
      | cons other above =>
        obtain ⟨rfl, rfl⟩ := List.cons.inj heq
        refine .inr ⟨above, line, below, rfl, ?_⟩
        rw [hlength, List.length_cons, Nat.add_right_comm, Nat.add_assoc]

/-- The lines of a comment's content are those of its text, each at its place. -/
theorem mem_contentLines : l ∈ contentLines d ↔ ∃ above line below,
    Text.splitOnChar (· = '\n') d.text.toList = above ++ line :: below ∧
      l = placedLine d.span above.length (byteLength (stacked above)) line := by
  simp only [contentLines, mem_contentLinesFrom, Nat.zero_add]

theorem text_of_split {above below : List (List Char)}
    (h : Text.splitOnChar (· = '\n') d.text.toList = above ++ line :: below) :
    d.text.toList = stacked above ++ line ++ hung below := by
  rw [← intercalate_split, ← h, Text.intercalate_splitOnChar (by simp)]

/-! ## 4. Between the delimiters -/

/-- What a text starts with ends in front of a character that it does not have. -/
theorem prefix_of_append_cons {lead : List Char} (hc : c ∉ lead) (h : lead <+: s ++ c :: t) : lead <+: s := by
  rcases List.prefix_or_prefix_of_prefix h (List.prefix_append s (c :: t)) with hle | ⟨more, rfl⟩
  · exact hle
  · cases more with
    | nil => rw [List.append_nil]
    | cons e more =>
      obtain ⟨rest, hrest⟩ := h
      rw [List.append_assoc, List.append_cancel_left_eq, List.cons_append] at hrest
      obtain rfl := (List.cons.inj hrest).1
      exact absurd (List.mem_append_right s List.mem_cons_self) hc

/-- What a text ends with starts behind a character that it does not have. -/
theorem suffix_of_append_cons {tail : List Char} (hc : c ∉ tail) (h : tail <:+ s ++ c :: t) : tail <:+ t := by
  rw [← List.reverse_prefix] at h ⊢
  rw [List.reverse_append, List.reverse_cons, List.append_assoc] at h
  exact prefix_of_append_cons (by simpa using hc) h

theorem prefix_of_byteLength_le {lead : List Char} (hlead : lead <+: t) (hs : s <+: t)
    (h : byteLength lead ≤ byteLength s) : lead <+: s := by
  rcases List.prefix_or_prefix_of_prefix hlead hs with hle | ⟨more, rfl⟩
  · exact hle
  · rw [byteLength_append] at h
    have hmore : more = [] := Text.byteLength_eq_zero_iff.mp (by omega)
    rw [hmore, List.append_nil]

theorem suffix_of_byteLength_le {tail : List Char} (htail : tail <:+ t) (hs : s <:+ t)
    (h : byteLength tail ≤ byteLength s) : tail <:+ s := by
  rcases List.suffix_or_suffix_of_suffix htail hs with hle | ⟨more, rfl⟩
  · exact hle
  · rw [byteLength_append] at h
    have hmore : more = [] := Text.byteLength_eq_zero_iff.mp (by omega)
    rw [hmore, List.nil_append]

/-- The content of a line stands in the text of its comment: `front` in front of it, `back` behind. -/
structure Surrounds (d : Doc) (front : List Char) (l : ContentLine) (back : List Char) : Prop where
  text : d.text.toList = front ++ l.text ++ back
  start : l.span.start = d.span.start + byteLength front
  stop : l.span.stop = l.span.start + byteLength l.text

section

variable (h : d.IsDelimited)

include h

/-- What is left of a line stands behind the opening. -/
theorem opening_le_of_split {above below : List (List Char)}
    (hsplit : Text.splitOnChar (· = '\n') d.text.toList = above ++ line :: below) :
    3 ≤ byteLength (stacked above) + (lineContent (above.length = 0) line).offset := by
  have hopening := h.opening
  rw [text_of_split hsplit] at hopening
  cases above with
  | nil =>
    -- The first line starts with the opening.
    have hline : ['/', '*', '*'] <+: line := by
      cases below with
      | nil => simpa [stacked, hung] using hopening
      | cons next below =>
        rw [stacked, List.flatMap_nil, List.nil_append, hung, List.flatMap_cons, List.cons_append] at hopening
        exact prefix_of_append_cons (by decide) hopening
    obtain ⟨rest, rfl⟩ := hline
    exact Nat.le_trans (opening_le_offset rest) (Nat.le_add_left _ _)
  | cons first above =>
    -- The opening stands on the first line, and this one is another.
    have hfirst : ['/', '*', '*'] <+: first := by
      refine prefix_of_append_cons (c := '\n') (t := stacked above ++ line ++ hung below) (by decide) ?_
      simpa [stacked] using hopening
    have hlength := Text.byteLength_le_of_prefix hfirst
    rw [byteLength_stacked_cons]
    exact Nat.le_trans hlength (by omega)

/-- The last line ends with the end of the comment. -/
theorem closing_of_split {above : List (List Char)}
    (hsplit : Text.splitOnChar (· = '\n') d.text.toList = above ++ [line]) : ['*', '/'] <:+ line := by
  have hclosing := h.closing
  rw [text_of_split hsplit, hung, List.flatMap_nil, List.append_nil] at hclosing
  rcases List.eq_nil_or_concat above with rfl | ⟨init, last, rfl⟩
  · simpa [stacked] using hclosing
  · refine suffix_of_append_cons (s := stacked init ++ last) (c := '\n') (by decide) ?_
    simpa [stacked] using hclosing

end

/-- What is left of a line, where `more` is a part behind it that is left out. -/
theorem surrounds_of_standsIn {above below : List (List Char)} {kept more : List Char}
    (hsplit : Text.splitOnChar (· = '\n') d.text.toList = above ++ line :: below) (hline : line = kept ++ more)
    (hp : (lineContent (above.length = 0) line).StandsIn kept) :
    ∃ front back, byteLength front = byteLength (stacked above) + (lineContent (above.length = 0) line).offset ∧
      Surrounds d front (placedLine d.span above.length (byteLength (stacked above)) line)
        (back ++ (more ++ hung below)) := by
  obtain ⟨front, back, hkept, hoffset⟩ := hp
  have hpart : line = front ++ (lineContent (above.length = 0) line).text ++ (back ++ more) := by
    rw [← List.append_assoc, ← hkept]
    exact hline
  refine ⟨stacked above ++ front, back, by rw [byteLength_append, hoffset], ?_, ?_, rfl⟩
  · calc d.text.toList = stacked above ++ line ++ hung below := text_of_split hsplit
      _ = stacked above ++ (front ++ (lineContent (above.length = 0) line).text ++ (back ++ more)) ++ hung below :=
          congrArg (stacked above ++ · ++ hung below) hpart
      _ = _ := by simp [placedLine]
  · rw [byteLength_append, hoffset, ← Nat.add_assoc]
    rfl

/-- **What a comment's lines say stands between its delimiters**, unless these share a star. -/
theorem surrounds_of_mem_contentLines (h : d.IsDelimited) (hroom : ¬ d.SharesStar) (hl : l ∈ contentLines d) :
    ∃ front back, Surrounds d (['/', '*', '*'] ++ front) l (back ++ ['*', '/']) := by
  obtain ⟨above, line, below, hsplit, rfl⟩ := mem_contentLines.mp hl
  obtain ⟨front, back, hlength, hsurrounds⟩ : ∃ front back,
      byteLength front = byteLength (stacked above) + (lineContent (above.length = 0) line).offset ∧
        Surrounds d front (placedLine d.span above.length (byteLength (stacked above)) line) (back ++ ['*', '/']) := by
    cases below with
    | nil =>
      obtain ⟨kept, hkept⟩ := closing_of_split h hsplit
      have hspace : Text.trimStart (kept ++ ['*', '/']) ≠ ['/', '*', '*', '/'] := by
        rw [hkept]
        exact fun hshared => hroom ⟨line, by rw [hsplit]; simp, hshared⟩
      have hp : (lineContent (above.length = 0) line).StandsIn kept :=
        hkept ▸ standsIn_lineContent_closing _ hspace
      obtain ⟨front, back, hlength, hsurrounds⟩ := surrounds_of_standsIn hsplit hkept.symm hp
      exact ⟨front, back, hlength, by simpa [hung] using hsurrounds⟩
    | cons next below =>
      -- The end stands below a line feed, and that one below the line.
      obtain ⟨front, back, hlength, hsurrounds⟩ :=
        surrounds_of_standsIn hsplit (List.append_nil line).symm (standsIn_lineContent _ line)
      have hclosing := h.closing
      rw [text_of_split hsplit] at hclosing
      obtain ⟨rest, hrest⟩ : ['*', '/'] <:+ next ++ hung below :=
        suffix_of_append_cons (s := stacked above ++ line) (c := '\n') (by decide) (by simpa [hung] using hclosing)
      refine ⟨front, back ++ '\n' :: rest, hlength, ?_⟩
      have hback : back ++ ([] ++ hung (next :: below)) = back ++ '\n' :: rest ++ ['*', '/'] := by
        change back ++ '\n' :: (next ++ hung below) = _
        rw [← hrest]
        simp
      exact hback ▸ hsurrounds
  have hopening := opening_le_of_split h hsplit
  have hfront : front <+: d.text.toList := by
    rw [hsurrounds.text, List.append_assoc]
    exact List.prefix_append _ _
  obtain ⟨rest, rfl⟩ : ['/', '*', '*'] <+: front :=
    prefix_of_byteLength_le h.opening hfront (le_of_le_of_eq hopening hlength.symm)
  exact ⟨rest, back, hsurrounds⟩

theorem Surrounds.encloses {front back : List Char} (hs : Surrounds d (['/', '*', '*'] ++ front) l (back ++ ['*', '/'])) :
    d.Encloses l.span := by
  have hdelimiters : byteLength ['/', '*', '*'] = 3 ∧ byteLength ['*', '/'] = 2 := by decide
  have hstart := hs.start
  have hstop := hs.stop
  have htext := congrArg byteLength hs.text
  simp only [byteLength_append, hdelimiters] at hstart htext
  constructor <;> omega

/-- **Where they do share a star, the last line says the slash of the end.** -/
theorem slash_of_sharesStar (h : d.SharesStar) : ∃ l ∈ contentLines d, l.text = ['/'] ∧ ¬ d.Encloses l.span := by
  obtain ⟨line, hline, hshared⟩ := h
  obtain ⟨above, hsplit⟩ := List.getLast?_eq_some_iff.mp hline
  obtain ⟨htext, hoffset⟩ := lineContent_of_shared (above.length = 0) hshared
  refine ⟨_, mem_contentLines.mpr ⟨above, line, [], hsplit, rfl⟩, htext, fun hencloses => ?_⟩
  have hlength := congrArg byteLength (text_of_split hsplit)
  have hbefore := hencloses.before
  rw [hlength, byteLength_append, byteLength_append] at hbefore
  simp only [placedLine, htext, hung, List.flatMap_nil] at hbefore
  have hslash : byteLength ['/'] = 1 ∧ byteLength [] = 0 := by decide
  omega

/-! ## 5. What a comment says -/

/-- What a comment says is taken from between its delimiters: its lines, each from its place, the lines of its
description, and the values of its tags. -/
structure TakenFrom (d : Doc) (body : List Char) : Prop where
  text : d.text.toList = ['/', '*', '*'] ++ body ++ ['*', '/']
  lines : ∀ l ∈ contentLines d, ∃ front back, body = front ++ l.text ++ back ∧
    l.span.start = d.span.start + 3 + byteLength front ∧ l.span.stop = l.span.start + byteLength l.text
  closed : ∀ l ∈ contentLines d, hasCloser l.text = false
  description : ∀ description ∈ (ofDoc d).1.description?,
    ∀ line ∈ Text.splitOnChar (· = '\n') description.toList, ∃ l ∈ contentLines d, l.text = line
  places : (ofDoc d).1.tags.Sited d.Encloses
  values : (ofDoc d).1.tags.Texts fun text => text.toList <:+: body

theorem contentLines_ne_nil (d : Doc) : contentLines d ≠ [] := by
  obtain ⟨line, lines, hsplit⟩ := List.exists_cons_of_ne_nil (Text.splitOnChar_ne_nil (· = '\n') d.text.toList)
  rw [contentLines, hsplit]
  exact List.cons_ne_nil _ _

theorem takenFrom_of_room (h : d.IsDelimited) (hroom : ¬ d.SharesStar) : ∃ body, TakenFrom d body := by
  -- Any line shows where the body is; the others stand in the same one.
  obtain ⟨l, hl⟩ := List.exists_mem_of_ne_nil _ (contentLines_ne_nil d)
  obtain ⟨front, back, hs⟩ := surrounds_of_mem_contentLines h hroom hl
  have htext : d.text.toList = ['/', '*', '*'] ++ (front ++ l.text ++ back) ++ ['*', '/'] := by
    rw [hs.text]
    simp
  have hlines : ∀ k ∈ contentLines d, ∃ before behind, front ++ l.text ++ back = before ++ k.text ++ behind ∧
      k.span.start = d.span.start + 3 + byteLength before ∧ k.span.stop = k.span.start + byteLength k.text := by
    intro k hk
    obtain ⟨before, behind, hk⟩ := surrounds_of_mem_contentLines h hroom hk
    have hstart : k.span.start = d.span.start + 3 + byteLength before := by
      rw [hk.start, byteLength_append, ← Nat.add_assoc]
      rfl
    refine ⟨before, behind, ?_, hstart, hk.stop⟩
    have hsame : ['/', '*', '*'] ++ (front ++ l.text ++ back) ++ ['*', '/'] =
        ['/', '*', '*'] ++ (before ++ k.text ++ behind) ++ ['*', '/'] := by
      rw [← htext, hk.text]
      simp
    exact List.append_cancel_left (List.append_cancel_right hsame)
  have hinside : ∀ k ∈ contentLines d, k.text <:+: front ++ l.text ++ back := by
    intro k hk
    obtain ⟨before, behind, heq, -, -⟩ := hlines k hk
    exact ⟨before, behind, heq.symm⟩
  have hclosed : hasCloser (front ++ l.text ++ back) = false := by
    have hshape : ['/', '*', '*'] ++ (front ++ l.text ++ back) ++ ['*', '/'] =
        ['/', '*'] ++ (['*'] ++ (front ++ l.text ++ back) ++ ['*'] ++ ['/']) := by simp
    have hdrop : (d.text.toList.drop 2).dropLast = ['*'] ++ (front ++ l.text ++ back) ++ ['*'] := by
      rw [htext, hshape]
      exact List.dropLast_concat
    exact hasCloser_of_isInfix ⟨['*'], ['*'], hdrop.symm⟩ h.single
  refine ⟨front ++ l.text ++ back, htext, hlines, fun k hk => hasCloser_of_isInfix (hinside k hk) hclosed, ?_, ?_, ?_⟩
  · intro description hdescription line hline
    obtain ⟨kept, hne, hkept, hmem, rfl⟩ := exists_kept_of_description hdescription
    rw [String.toList_ofList, hkept.split_eq hne] at hline
    exact (hmem line hline).2
  · refine (sited_ofDoc fun k hk => ?_).1
    obtain ⟨before, behind, hk⟩ := surrounds_of_mem_contentLines h hroom hk
    exact hk.encloses
  · refine (TagSet.texts_ofDoc d).mono fun text hvalue => ?_
    obtain ⟨k, hk, htext⟩ := hvalue.isInfix
    exact htext.trans (hinside k hk)

/-- **The content of a comment lies between its delimiters** exactly if its last line is not an opening and an end that
share a star. Then all that the comment says is taken from between them; otherwise it says the slash of its end. -/
theorem content_enclosed_iff (d : Doc) (h : d.IsDelimited) :
    ((∀ l ∈ contentLines d, d.Encloses l.span) ↔ ¬ d.SharesStar) ∧
      (¬ d.SharesStar → ∃ body, TakenFrom d body) ∧
      (d.SharesStar → ∃ l ∈ contentLines d, l.text = ['/'] ∧ ¬ d.Encloses l.span) := by
  refine ⟨⟨fun hall hshared => ?_, fun hroom l hl => ?_⟩, takenFrom_of_room h, slash_of_sharesStar⟩
  · obtain ⟨l, hl, -, hnot⟩ := slash_of_sharesStar hshared
    exact hnot (hall l hl)
  · obtain ⟨front, back, hs⟩ := surrounds_of_mem_contentLines h hroom hl
    exact hs.encloses

namespace Sample

/-- A comment that ends with one more star, below a line with a tag. -/
def starred : Doc := ⟨"/** Adds *\n  * @format odd\n  **/", ⟨7, 38, 2, 3⟩⟩

theorem starred_enclosed :
    starred.IsDelimited ∧ ¬ starred.SharesStar ∧
      (contentLines starred).map (fun l => (String.ofList l.text, l.span.start, l.span.stop)) =
        [("Adds *", 11, 17), ("@format odd", 22, 33), ("", 37, 37)] ∧
      (∀ l ∈ contentLines starred, starred.Encloses l.span) ∧ ∃ body, TakenFrom starred body := by
  have hdelimited : starred.IsDelimited := ⟨by decide, by decide, by decide⟩
  have hroom : ¬ starred.SharesStar := by
    rintro ⟨line, hline, hshared⟩
    have hlast : (Text.splitOnChar (· = '\n') starred.text.toList).getLast? = some "  **/".toList := by decide
    rw [hlast] at hline
    cases hline
    revert hshared
    decide
  obtain ⟨hiff, htaken, -⟩ := content_enclosed_iff starred hdelimited
  exact ⟨hdelimited, hroom, by decide, hiff.mpr hroom, htaken hroom⟩

/-- Two declarations with comments that say nothing. -/
def silent : String :=
  "/**/\ninterface A extends Tool \x7b name: \"a\" \x7d\n/**\n/**/\ninterface B extends Tool \x7b name: \"b\" \x7d"

/-- Their descriptions are the slash of the comment's end, so content is not always enclosed. -/
theorem silent_described :
    (SourceFile.read silent).docs.map (fun d => (d.text, (ofDoc d).1.description?)) =
        [("/**/", some "/"), ("/**\n/**/", some "/")] ∧
      ¬ ∀ d : Doc, d.IsDelimited → ∀ l ∈ contentLines d, d.Encloses l.span := by
  refine ⟨by decide +kernel, fun hall => ?_⟩
  have hdelimited : (⟨"/**\n/**/", .origin⟩ : Doc).IsDelimited := ⟨by decide, by decide, by decide⟩
  obtain ⟨l, hl, -, hnot⟩ := slash_of_sharesStar (d := ⟨"/**\n/**/", .origin⟩) ⟨"/**/".toList, by decide, by decide⟩
  exact hnot (hall _ hdelimited l hl)

end Sample

end Annotation

end ServiceGraph
