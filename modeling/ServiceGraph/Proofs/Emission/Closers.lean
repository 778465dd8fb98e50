import ServiceGraph.Proofs.Emission.Comment
import ServiceGraph.Proofs.Schema.Texts
import ServiceGraph.Proofs.Syntax.Documented

/-!
What a comment says does not end a comment.

A comment that is a token ends where it first can (`Doc.IsToken.exists_body`), so no part of it holds an end of a
comment, but for the one at its own end; and that one is not part of what its lines say
(`Annotation.hasCloser_of_mem_contentLines`). So the texts of tags that come from a file, in whatever schema they
stand, can be written into a comment as they are (`Analysis.closed_texts`).
-/

namespace ServiceGraph

open Syntax Emission

/-! ## 1. Tokens -/

namespace Syntax

/-- The text behind the opening of a comment that ends where it first can. -/
theorem exists_body_of_length {body : List Char} (h : Token.blockCommentLength? body = some body.length) :
    ∃ s, body = s ++ ['*', '/'] ∧ hasCloser (s ++ ['*']) = false := by
  fun_induction Token.blockCommentLength? body with
  | case1 rest =>
    have hrest : rest = [] := List.eq_nil_of_length_eq_zero (by simpa using h)
    exact ⟨[], by rw [hrest]; rfl, rfl⟩
  | case2 c rest hclose ih =>
    obtain ⟨s, rfl, hs⟩ := ih (by simpa using h)
    refine ⟨c :: s, rfl, ?_⟩
    rw [List.cons_append]
    by_cases hstar : c = '*'
    · subst hstar
      rw [hasCloser_star, hs]
      intro hhead
      obtain ⟨tail, htail⟩ := List.head?_eq_some_iff.mp hhead
      exact hclose (tail ++ ['/']) rfl (by simpa using congrArg (· ++ ['/']) htail)
    · rw [hasCloser_cons hstar, hs]
  | case3 => cases h

/-- A comment that is a token has one end. -/
theorem Doc.IsToken.exists_body {d : Doc} (h : d.IsToken) :
    ∃ s, d.text.toList = s ++ ['*', '/'] ∧ hasCloser (s ++ ['*']) = false := by
  obtain ⟨t, hcomment, hprefix, rfl⟩ := h
  obtain ⟨rest, hrest⟩ := List.isPrefixOf_iff_prefix.mp hprefix
  have htext : t.text.toList = '/' :: '*' :: '*' :: rest := hrest.symm
  have hkind : t.kind = .comment := by simpa [Token.isComment] using hcomment
  obtain ⟨s, hbody, hs⟩ := exists_body_of_length (t.fits.comment hkind _ htext)
  refine ⟨'/' :: '*' :: s, by rw [htext, hbody]; rfl, ?_⟩
  -- The star of the opening is no star of an end, since a star follows it.
  rw [List.cons_append, hasCloser_cons (by decide), List.cons_append, hasCloser_star, hs]
  cases s with
  | nil => simp
  | cons c s => simp [← (List.cons.inj hbody).1]

end Syntax

/-! ## 2. Lines -/

namespace Annotation

/-- Of a text that has one end of a comment, no part has one after its own has been dropped. -/
theorem hasCloser_dropTail {s x : List Char} (hs : hasCloser (s ++ ['*']) = false)
    (hx : x <:+: s ++ ['*', '/']) : hasCloser (Text.dropTail ['*', '/'] x) = false := by
  obtain ⟨front, back, heq⟩ := hx
  have hlength := congrArg List.length heq
  simp only [List.length_append, List.length_cons, List.length_nil] at hlength
  have hsplit : s ++ ['*', '/'] = s ++ ['*'] ++ ['/'] := by simp
  -- What lies in front of the last character has no end of a comment in it.
  have hshort : ∀ y : List Char, front ++ y <+: s ++ ['*', '/'] → front.length + y.length < s.length + 2 →
      hasCloser y = false := by
    intro y hy hle
    have hfront : front ++ y <+: s ++ ['*'] := by
      refine List.prefix_of_prefix_length_le hy (hsplit ▸ List.prefix_append _ _) ?_
      simp only [List.length_append, List.length_cons, List.length_nil]
      omega
    exact hasCloser_of_isInfix ((List.suffix_append front y).isInfix.trans hfront.isInfix) hs
  by_cases hend : ['*', '/'] <:+ x
  · obtain ⟨y, rfl⟩ := hend
    rw [dropTail_append]
    refine hshort y ?_ ?_
    · exact ⟨['*', '/'] ++ back, by rw [← heq]; simp⟩
    · simp only [List.length_append, List.length_cons, List.length_nil] at hlength
      omega
  · have hkept : Text.dropTail ['*', '/'] x = x := by
      rw [Text.dropTail, if_neg (by simpa [List.isSuffixOf_iff_suffix] using hend)]
    rw [hkept]
    cases back with
    | cons c back =>
      refine hshort x ⟨c :: back, heq⟩ ?_
      simp only [List.length_cons] at hlength
      omega
    | nil =>
      rw [List.append_nil] at heq
      have hsuffix : x <:+ s ++ ['*', '/'] := ⟨front, heq⟩
      match x with
      | [] => rfl
      | [c] => simp [hasCloser]
      | c :: d :: x =>
        exact (hend (List.suffix_of_suffix_length_le (List.suffix_append s _) hsuffix (by simp))).elim

/-- The content of a line: before the end of the comment is dropped and afterwards, parts are left out. -/
theorem hasCloser_lineContent {s line : List Char} (hs : hasCloser (s ++ ['*']) = false)
    (hline : line <:+: s ++ ['*', '/']) (isFirst : Bool) :
    hasCloser (lineContent isFirst line).text = false := by
  have hbefore : Text.trimEnd (Text.dropLead ['/', '*', '*'] (Text.trimStart line)) <:+: line :=
    (Text.dropEnd_isPrefix _).isInfix.trans
      ((Text.dropLead_isSuffix _ _).isInfix.trans (List.dropWhile_suffix _).isInfix)
  have hdropped := hasCloser_dropTail hs (hbefore.trans hline)
  rw [text_lineContent]
  refine hasCloser_of_isInfix ((Text.dropEnds_isInfix _).trans ?_) hdropped
  split
  · exact (List.dropWhile_suffix _).isInfix
  · exact (List.dropWhile_suffix _).isInfix.trans (List.dropWhile_suffix _).isInfix

/-- A line of a comment's content is what is kept of a line of the comment. -/
theorem exists_of_mem_contentLines {d : Doc} {l : ContentLine} (hl : l ∈ contentLines d) :
    ∃ line ∈ Text.splitOnChar (· = '\n') d.text.toList, ∃ isFirst, l.text = (lineContent isFirst line).text := by
  have hmem := List.mem_map_of_mem (f := (·.text)) hl
  rw [map_text_contentLines] at hmem
  split at hmem
  · rename_i first rest hsplit
    rw [hsplit]
    rcases List.mem_cons.mp hmem with heq | hmem
    · exact ⟨first, List.mem_cons_self, true, heq⟩
    · obtain ⟨line, hrest, heq⟩ := List.mem_map.mp hmem
      exact ⟨line, List.mem_cons_of_mem _ hrest, false, heq.symm⟩
  · cases hmem

/-- **What the lines of a comment say does not end a comment.** -/
theorem hasCloser_of_mem_contentLines {d : Doc} (hd : d.IsToken) :
    ∀ l ∈ contentLines d, hasCloser l.text = false := by
  obtain ⟨s, htext, hs⟩ := hd.exists_body
  intro l hl
  obtain ⟨line, hline, isFirst, heq⟩ := exists_of_mem_contentLines hl
  rw [htext] at hline
  exact heq ▸ hasCloser_lineContent hs (Text.infix_of_mem_splitOnChar hline) isFirst

/-- The value of a tag is part of its line. -/
theorem IsValueIn.isInfix {lines : List ContentLine} {text : String} (h : IsValueIn lines text) :
    ∃ l ∈ lines, text.toList <:+: l.text := by
  obtain ⟨l, hl, name, htag⟩ := h.line
  refine ⟨l, hl, ?_⟩
  unfold tagOfLine? at htag
  split at htag
  · rename_i rest heq
    obtain ⟨-, hvalue⟩ := Prod.mk.inj (Option.some.inj htag)
    rw [← hvalue, heq]
    exact (Text.dropEnds_isInfix _).trans
      ((List.dropWhile_suffix _).isInfix.trans (List.suffix_cons _ _).isInfix)
  · cases htag

theorem IsValueIn.hasCloser {lines : List ContentLine} {text : String} (h : IsValueIn lines text)
    (hlines : ∀ l ∈ lines, hasCloser l.text = false) : hasCloser text.toList = false := by
  obtain ⟨l, hl, hpart⟩ := h.isInfix
  exact hasCloser_of_isInfix hpart (hlines l hl)

end Annotation

/-! ## 3. Analyses -/

namespace Analysis

/-- A text that does not end a comment. -/
abbrev Closed (text : String) : Prop := hasCloser text.toList = false

theorem closed_annotations (text : String) :
    (context (SourceFile.read text)).annotations.Every (·.tags.Texts Closed) := by
  intro e he
  obtain ⟨doc, hdoc, heq⟩ := every_ofDoc _ e he
  have hlines := Annotation.hasCloser_of_mem_contentLines (SourceFile.isToken_of_mem_docs text doc hdoc)
  exact heq ▸ (TagSet.texts_ofDoc doc).mono fun _ hvalue => hvalue.hasCloser hlines

/-- **No pattern and no format of a graph that is read from a text ends a comment.** -/
theorem closed_texts (text : String) : ∀ n, (ofText text).graph.HasNode n → n.constraints.Texts Closed := by
  rintro n ⟨root, hroot, hn⟩
  exact (built_of_mem_roots (closed_annotations text) root hroot).everywhere (Schema.keptBy_texts (by decide)) n hn

end Analysis

end ServiceGraph
