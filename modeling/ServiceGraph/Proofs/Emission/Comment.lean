import ServiceGraph.Emission.Comment
import ServiceGraph.Proofs.Json.Numerals
import ServiceGraph.Proofs.Text.Lines

/-!
Comments are read back.

A comment is one token, since nothing in it ends it (`Emission.lexes_comment`), and its lines are the lines that
were written, trimmed (`Emission.map_text_contentLines`).
-/

namespace ServiceGraph

open Syntax Syntax.Token

namespace Emission

/-! ## 1. Ends of comments -/

variable {s t : List Char} {c : Char}

theorem hasCloser_cons (h : c ≠ '*') (s : List Char) : hasCloser (c :: s) = hasCloser s := by
  rw [hasCloser.eq_def]
  split
  · rename_i heq
    exact absurd (List.cons.inj heq).1 h
  · rename_i heq
    rw [(List.cons.inj heq).2]
  · rename_i heq
    cases heq

theorem hasCloser_star (h : t.head? ≠ some '/') : hasCloser ('*' :: t) = hasCloser t := by
  rw [hasCloser.eq_def]
  split
  · rename_i heq
    rw [(List.cons.inj heq).2] at h
    exact absurd rfl h
  · rename_i heq
    rw [(List.cons.inj heq).2]
  · rename_i heq
    cases heq

/-- No end of a comment goes across a character that is no part of one. -/
theorem hasCloser_append_cons (hstar : c ≠ '*') (hslash : c ≠ '/') :
    ∀ s : List Char, hasCloser (s ++ c :: t) = (hasCloser s || hasCloser t)
  | [] => by rw [List.nil_append, hasCloser_cons hstar]; rfl
  | d :: s => by
      have ih : hasCloser (s ++ c :: t) = (hasCloser s || hasCloser t) :=
        hasCloser_append_cons hstar hslash s
      rw [List.cons_append]
      by_cases hd : d = '*'
      · subst hd
        by_cases hhead : s.head? = some '/'
        · obtain ⟨s', rfl⟩ := List.head?_eq_some_iff.mp hhead
          rfl
        · have hhead' : (s ++ c :: t).head? ≠ some '/' := by
            cases s with
            | nil => simpa using hslash
            | cons e s => simpa using hhead
          rw [hasCloser_star hhead, hasCloser_star hhead', ih]
      · rw [hasCloser_cons hd, hasCloser_cons hd, ih]

theorem hasCloser_blanks (n : Nat) (s : List Char) :
    hasCloser (List.replicate n ' ' ++ s) = hasCloser s := by
  induction n with
  | zero => rfl
  | succ n ih => rw [List.replicate_succ, List.cons_append, hasCloser_cons (by decide), ih]

/-- A part of a text without ends of comments has none. -/
theorem hasCloser_append : ∀ s : List Char, hasCloser s = true ∨ hasCloser t = true →
    hasCloser (s ++ t) = true
  | [], h => by simpa [hasCloser] using h
  | d :: s, h => by
      rw [List.cons_append]
      by_cases hd : d = '*' ∧ s.head? = some '/'
      · obtain ⟨rfl, hhead⟩ := hd
        obtain ⟨s', rfl⟩ := List.head?_eq_some_iff.mp hhead
        rfl
      · have hs : hasCloser (d :: s) = hasCloser s := by
          by_cases hstar : d = '*'
          · subst hstar
            exact hasCloser_star fun hhead => hd ⟨rfl, hhead⟩
          · exact hasCloser_cons hstar s
        have ih : hasCloser (s ++ t) = true := hasCloser_append s (by rwa [hs] at h)
        rw [hasCloser.eq_def]
        split
        · rfl
        · rename_i heq
          rw [← (List.cons.inj heq).2, ih]
        · rename_i heq
          cases heq

theorem hasCloser_of_isInfix (h : s <:+: t) (ht : hasCloser t = false) : hasCloser s = false := by
  obtain ⟨front, behind, rfl⟩ := h
  cases hs : hasCloser s with
  | false => rfl
  | true =>
    rw [hasCloser_append (front ++ s) (.inl (hasCloser_append front (.inr hs)))] at ht
    cases ht

theorem slash_mem_of_hasCloser (h : hasCloser s = true) : '/' ∈ s := by
  fun_induction hasCloser s with
  | case1 rest => simp
  | case2 d rest hclose ih => exact List.mem_cons_of_mem _ (ih h)
  | case3 => cases h

/-- What holds no end of a comment is not changed. -/
theorem breakClosers_eq_self (h : hasCloser s = false) : breakClosers s = s := by
  fun_induction breakClosers s with
  | case1 rest ih => cases h
  | case2 c rest hclose ih =>
    have hrest : hasCloser rest = false := hasCloser_of_isInfix (List.suffix_cons c rest).isInfix h
    rw [ih hrest]
  | case3 => rfl

theorem head_breakClosers (s : List Char) : (breakClosers s).head? = s.head? := by
  rw [breakClosers.eq_def]
  split <;> rfl

theorem hasCloser_breakClosers (s : List Char) : hasCloser (breakClosers s) = false := by
  fun_induction breakClosers s with
  | case1 rest ih =>
    rw [hasCloser_star (by simp), hasCloser_cons (by decide), hasCloser_cons (by decide), ih]
  | case2 c rest hclose ih =>
    by_cases hstar : c = '*'
    · subst hstar
      rw [hasCloser_star, ih]
      rw [head_breakClosers]
      intro hhead
      obtain ⟨rest', rfl⟩ := List.head?_eq_some_iff.mp hhead
      exact hclose rest' rfl rfl
    · rw [hasCloser_cons hstar, ih]
  | case3 => rfl

/-- A block comment ends where it is closed, if nothing in it closes it. -/
theorem blockCommentLength?_of_not_hasCloser : ∀ {s : List Char}, hasCloser (s ++ ['*']) = false →
    blockCommentLength? (s ++ ['*', '/']) = some (s.length + 2)
  | [], _ => rfl
  | d :: s, h => by
      have hrest : hasCloser (s ++ ['*']) = false :=
        hasCloser_of_isInfix (List.suffix_cons d _).isInfix h
      have ih := blockCommentLength?_of_not_hasCloser hrest
      rw [List.cons_append, blockCommentLength?.eq_def]
      split
      · rename_i heq
        -- The characters in front would close the comment.
        obtain ⟨rfl, htail⟩ := List.cons.inj heq
        cases s with
        | nil => simp at htail
        | cons e s =>
          obtain ⟨rfl, -⟩ := List.cons.inj htail
          cases h
      · rename_i heq
        obtain ⟨-, rfl⟩ := List.cons.inj heq
        rw [ih]
        rfl
      · rename_i heq
        cases heq

/-! ## 2. The text of a comment -/

def blanks (level : Nat) : List Char := List.replicate (2 * level) ' '

/-- A line of a comment of several lines. -/
def starredLine (level : Nat) (l : String) : List Char :=
  blanks level ++ ' ' :: '*' :: (if l.isEmpty then [] else ' ' :: l.toList)

/-- The comment with the given lines, from its opening to its end. -/
def commentText (level : Nat) : List String → Option (List Char)
  | [] => none
  | [single] => some ('/' :: '*' :: '*' :: ' ' :: (single.toList ++ [' ', '*', '/']))
  | several =>
    some ('/' :: '*' :: '*' :: '\n' :: (several.flatMap (fun l => starredLine level l ++ ['\n']) ++
      (blanks level ++ [' ', '*', '/'])))

theorem toList_line (level : Nat) (text : String) :
    (line level text).toList = blanks level ++ (text.toList ++ ['\n']) := by
  simp [line, blanks]

theorem toList_comment (level : Nat) (lines : List String) :
    (comment level lines).toList =
      ((commentText level lines).map fun text => blanks level ++ (text ++ ['\n'])).getD [] := by
  match lines with
  | [] => rfl
  | [single] =>
    simp [comment, commentText, toList_line]
  | first :: second :: rest =>
    have hbody : ∀ l : String, (line level (if l.isEmpty then " *" else " * " ++ l)).toList =
        starredLine level l ++ ['\n'] := by
      intro l
      rw [toList_line, starredLine]
      split <;> simp
    simp only [comment, commentText, Option.map_some, Option.getD_some, String.toList_append, toList_line,
      String.toList_join, List.flatMap_map, hbody]
    simp

/-- Nothing in the text of a comment ends it. -/
theorem commentText_eq_some {level : Nat} {lines : List String} {text : List Char}
    (hlines : ∀ l ∈ lines, hasCloser l.toList = false) (h : commentText level lines = some text) :
    ∃ body, text = '/' :: '*' :: '*' :: (body ++ ['*', '/']) ∧
      hasCloser ('*' :: (body ++ ['*'])) = false := by
  match lines with
  | [] => cases h
  | [single] =>
    cases h
    refine ⟨' ' :: (single.toList ++ [' ']), by simp, ?_⟩
    rw [List.cons_append, List.append_assoc, List.singleton_append, hasCloser_star (by simp),
      hasCloser_cons (by decide), hasCloser_append_cons (by decide) (by decide),
      hlines single List.mem_cons_self]
    rfl
  | first :: second :: rest =>
    cases h
    refine ⟨'\n' :: ((first :: second :: rest).flatMap (fun l => starredLine level l ++ ['\n']) ++
      (blanks level ++ [' '])), by simp, ?_⟩
    have hlast : hasCloser (blanks level ++ [' ', '*']) = false := by
      rw [blanks, hasCloser_blanks]
      rfl
    have hstarred : ∀ l ∈ first :: second :: rest, ∀ t, hasCloser (starredLine level l ++ '\n' :: t) =
        hasCloser t := by
      intro l hl t
      rw [starredLine, List.append_assoc, blanks, hasCloser_blanks, List.cons_append,
        hasCloser_cons (by decide), List.cons_append]
      split
      · rw [List.nil_append, hasCloser_star (by simp), hasCloser_cons (by decide)]
      · rw [List.cons_append, hasCloser_star (by simp), hasCloser_cons (by decide),
          hasCloser_append_cons (by decide) (by decide), hlines l hl, Bool.false_or]
    have hall : ∀ ls : List String, (∀ l ∈ ls, l ∈ first :: second :: rest) → ∀ t,
        hasCloser (ls.flatMap (fun l => starredLine level l ++ ['\n']) ++ t) = hasCloser t := by
      intro ls
      induction ls with
      | nil => exact fun _ _ => rfl
      | cons l ls ih =>
        intro hmem t
        rw [List.flatMap_cons, List.append_assoc, List.append_assoc, List.singleton_append,
          hstarred l (hmem l List.mem_cons_self),
          ih fun k hk => hmem k (List.mem_cons_of_mem _ hk)]
    rw [List.cons_append, hasCloser_star (by simp), hasCloser_cons (by decide), List.append_assoc,
      List.append_assoc, hall _ fun l hl => hl]
    exact hlast

theorem lexes_blanks (level : Nat) {tail : List Char} : Lexes (blanks level) [] tail :=
  Token.lexes_blanks fun c hc => by
    rw [List.eq_of_mem_replicate hc]
    decide

/-- **A comment is one token**, and no comment is none. -/
theorem lexes_comment (level : Nat) {lines : List String} {tail : List Char}
    (hlines : ∀ l ∈ lines, hasCloser l.toList = false) :
    Lexes (comment level lines).toList
      ((commentText level lines).map fun text => (TokenKind.comment, String.ofList text)).toList tail := by
  rw [toList_comment]
  cases htext : commentText level lines with
  | none => exact lexes_nil
  | some text =>
    obtain ⟨body, rfl, hbody⟩ := commentText_eq_some hlines htext
    have hlength := blockCommentLength?_of_not_hasCloser (s := '*' :: body) hbody
    have htoken : Lexes ('/' :: '*' :: '*' :: (body ++ ['*', '/'])) [(.comment, _)] ('\n' :: tail) :=
      lexes_blockComment (by
        rw [List.cons_append] at hlength
        rw [hlength]
        simp)
    have hline := (lexes_blanks level).append (htoken.append (lexes_blank (c := '\n') (by decide)))
    simpa using hline

end Emission

namespace Annotation

open Emission

/-! ## 3. The lines of a comment -/

theorem text_trim (p : Piece) : p.trim.text = Text.trim p.text := by
  unfold Piece.trim
  split
  · rename_i h
    exact (Text.dropEnds_of_all h).symm
  · rfl

theorem text_dropLead (lead : List Char) (p : Piece) :
    (p.dropLead lead).text = Text.dropLead lead p.text := by
  unfold Piece.dropLead Text.dropLead
  split
  · rename_i h
    rw [h, Option.getD_some]
  · rename_i h
    rw [h, Option.getD_none]

/-- A line's text, by the texts that the steps give. -/
theorem text_lineContent (isFirst : Bool) (line : List Char) :
    (lineContent isFirst line).text =
      Text.trim (if isFirst then
          Text.trimStart (Text.dropTail ['*', '/'] (Text.trimEnd (Text.dropLead ['/', '*', '*']
            (Text.trimStart line))))
        else (Text.trimStart (Text.dropTail ['*', '/'] (Text.trimEnd (Text.dropLead ['/', '*', '*']
            (Text.trimStart line))))).dropWhile (· == '*')) := by
  unfold lineContent
  dsimp only
  rw [text_trim]
  cases isFirst
  · simp only [Bool.false_eq_true, if_false, Piece.dropWhile, Piece.trimStart, Piece.dropTail,
      Piece.trimEnd, text_dropLead]
    rfl
  · simp only [if_true, Piece.dropWhile, Piece.trimStart, Piece.dropTail, Piece.trimEnd, text_dropLead]
    rfl

theorem dropLead_append (lead s : List Char) : Text.dropLead lead (lead ++ s) = s := by
  unfold Text.dropLead Text.stripLead?
  rw [if_pos (List.isPrefixOf_iff_prefix.mpr (List.prefix_append _ _)), List.drop_left]
  rfl

theorem dropTail_append (s tail : List Char) : Text.dropTail tail (s ++ tail) = s := by
  unfold Text.dropTail
  rw [if_pos (List.isSuffixOf_iff_suffix.mpr (List.suffix_append _ _)), List.length_append,
    Nat.add_sub_cancel, List.take_left]

theorem dropTail_of_not_hasCloser {s : List Char} (h : hasCloser s = false) :
    Text.dropTail ['*', '/'] s = s := by
  unfold Text.dropTail
  rw [if_neg]
  intro hsuffix
  have hall := hasCloser_of_isInfix (List.isSuffixOf_iff_suffix.mp hsuffix).isInfix h
  cases hall

theorem isWhiteSpace_blank : Text.isWhiteSpace ' ' = true := by decide

theorem trimStart_cons_of_neg {c : Char} (h : Text.isWhiteSpace c = false) (s : List Char) :
    Text.trimStart (c :: s) = c :: s :=
  List.dropWhile_cons_of_neg (by simp [h])

theorem trimStart_blanks (level : Nat) (s : List Char) :
    Text.trimStart (blanks level ++ ' ' :: s) = Text.trimStart s := by
  unfold Text.trimStart
  rw [List.dropWhile_append_of_pos, List.dropWhile_cons_of_pos isWhiteSpace_blank]
  intro c hc
  rw [List.eq_of_mem_replicate hc]
  exact isWhiteSpace_blank

theorem trimEnd_closing (s : List Char) : Text.trimEnd (s ++ ['*', '/']) = s ++ ['*', '/'] := by
  have h : Text.dropEnd Text.isWhiteSpace ((s ++ ['*']) ++ ['/']) = (s ++ ['*']) ++ ['/'] :=
    Text.dropEnd_append_of_neg (by decide) _
  rwa [List.append_assoc] at h

/-- What a comment of one line says. -/
theorem text_single (l : List Char) :
    (lineContent true ('/' :: '*' :: '*' :: ' ' :: (l ++ [' ', '*', '/']))).text = Text.trim l := by
  have hline : '/' :: '*' :: '*' :: ' ' :: (l ++ [' ', '*', '/']) =
      ['/', '*', '*'] ++ ((' ' :: (l ++ [' '])) ++ ['*', '/']) := by simp
  rw [text_lineContent, if_pos rfl, trimStart_cons_of_neg (by decide), hline, dropLead_append,
    trimEnd_closing, dropTail_append]
  change Text.dropEnds _ ((' ' :: (l ++ [' '])).dropWhile _) = Text.dropEnds _ l
  rw [Text.dropEnds_dropWhile, Text.dropEnds_cons isWhiteSpace_blank,
    Text.dropEnds_append isWhiteSpace_blank]

/-- The opening line of a comment of several lines says nothing. -/
theorem text_opening : (lineContent true ['/', '*', '*']).text = [] := by
  rw [text_lineContent, if_pos rfl, trimStart_cons_of_neg (by decide)]
  rfl

/-- Neither does the closing line. -/
theorem text_closing (level : Nat) : (lineContent false (blanks level ++ [' ', '*', '/'])).text = [] := by
  rw [text_lineContent, if_neg (by decide), trimStart_blanks, trimStart_cons_of_neg (by decide)]
  decide

/-- What a line between them says. -/
theorem text_starred (level : Nat) {l : String} (h : hasCloser l.toList = false) :
    (lineContent false (starredLine level l)).text = Text.trim l.toList := by
  have hlead : ∀ s, Text.dropLead ['/', '*', '*'] ('*' :: s) = '*' :: s := fun s => rfl
  rw [text_lineContent, if_neg (by decide), starredLine, trimStart_blanks,
    trimStart_cons_of_neg (by decide), hlead]
  split
  · rename_i hempty
    rw [String.isEmpty_iff.mp hempty]
    decide
  · have hcloser : hasCloser ('*' :: ' ' :: l.toList) = false := by
      rw [hasCloser_star (by simp), hasCloser_cons (by decide), h]
    have hend : Text.trimEnd ('*' :: ' ' :: l.toList) = '*' :: Text.trimEnd (' ' :: l.toList) :=
      Text.dropEnd_cons_of_neg (by decide) _
    have hshort : Text.trimEnd ('*' :: ' ' :: l.toList) <:+: '*' :: ' ' :: l.toList :=
      (Text.dropEnd_isPrefix _).isInfix
    have hstars : (Text.trimEnd (' ' :: l.toList)).dropWhile (· == '*') = Text.trimEnd (' ' :: l.toList) := by
      change (Text.dropEnd _ (' ' :: l.toList)).dropWhile _ = Text.dropEnd _ (' ' :: l.toList)
      rw [Text.dropEnd_cons]
      split <;> rfl
    rw [dropTail_of_not_hasCloser (hasCloser_of_isInfix hshort hcloser), hend,
      trimStart_cons_of_neg (by decide), List.dropWhile_cons_of_pos (by decide), hstars]
    change Text.dropEnds _ (Text.dropEnd _ (' ' :: l.toList)) = Text.dropEnds _ l.toList
    rw [Text.dropEnds_dropEnd, Text.dropEnds_cons isWhiteSpace_blank]

/-- The texts of a comment's lines. -/
theorem map_text_contentLines (doc : Doc) :
    (contentLines doc).map (·.text) = match Text.splitOnChar (· = '\n') doc.text.toList with
      | first :: rest => (lineContent true first).text :: rest.map fun l => (lineContent false l).text
      | [] => [] := by
  have hrest : ∀ (lines : List (List Char)) (index start : Nat),
      (contentLinesFrom doc.span (index + 1) start lines).map (·.text) =
        lines.map fun l => (lineContent false l).text := by
    intro lines
    induction lines with
    | nil => exact fun _ _ => rfl
    | cons l lines ih => exact fun index start => by simp [contentLinesFrom, ih]
  unfold contentLines
  split
  · rename_i heq
    rw [heq]
    simp [contentLinesFrom, hrest]
  · rename_i heq
    rw [heq]
    rfl

theorem splitOnChar_starred (level : Nat) : ∀ {lines : List String},
    (∀ l ∈ lines, ∀ c ∈ l.toList, c ≠ '\n') →
    Text.splitOnChar (· = '\n') (lines.flatMap (fun l => starredLine level l ++ ['\n']) ++
      (blanks level ++ [' ', '*', '/'])) = lines.map (starredLine level) ++ [blanks level ++ [' ', '*', '/']]
  | [], _ => by
      rw [List.flatMap_nil, List.nil_append, Text.splitOnChar_of_none]
      · rfl
      · intro c hc
        rcases List.mem_append.mp hc with hc | hc
        · rw [List.eq_of_mem_replicate hc]
          decide
        · simp only [List.mem_cons, List.not_mem_nil, or_false] at hc
          rcases hc with rfl | rfl | rfl <;> decide
  | l :: lines, h => by
      have hl := h l List.mem_cons_self
      rw [List.flatMap_cons, List.append_assoc, List.append_assoc, List.singleton_append,
        Text.splitOnChar_append (by decide),
        splitOnChar_starred level fun k hk => h k (List.mem_cons_of_mem _ hk)]
      · rfl
      · intro c hc
        rcases List.mem_append.mp hc with hc | hc
        · rw [List.eq_of_mem_replicate hc]
          decide
        · have hall : c = ' ' ∨ c = '*' ∨ c ∈ l.toList := by
            split at hc <;> simp at hc <;> tauto
          rcases hall with rfl | rfl | hc
          · decide
          · decide
          · simpa using hl c hc

/-- **The lines of a written comment are read back, trimmed**, between empty ones if there are several. -/
theorem texts_commentText {level : Nat} {lines : List String} {text : List Char} (doc : Doc)
    (hfeed : ∀ l ∈ lines, ∀ c ∈ l.toList, c ≠ '\n') (hcloser : ∀ l ∈ lines, hasCloser l.toList = false)
    (htext : commentText level lines = some text) (hdoc : doc.text.toList = text) :
    (contentLines doc).map (·.text) = lines.map (fun l => Text.trim l.toList) ∨
      (contentLines doc).map (·.text) = [] :: (lines.map (fun l => Text.trim l.toList) ++ [[]]) := by
  rw [map_text_contentLines, hdoc]
  match lines with
  | [] => cases htext
  | [single] =>
    cases htext
    rw [Text.splitOnChar_of_none]
    · exact .inl (congrArg (fun t => [t]) (text_single _))
    · have hsingle := hfeed single List.mem_cons_self
      intro c hc
      simp only [List.mem_cons, List.mem_append, List.not_mem_nil, or_false] at hc
      rcases hc with rfl | rfl | rfl | rfl | hc | rfl | rfl | rfl
      all_goals first | decide | simpa using hsingle c hc
  | first :: second :: rest =>
    cases htext
    have hopening : ∀ t, '/' :: '*' :: '*' :: '\n' :: t = ['/', '*', '*'] ++ '\n' :: t := fun _ => rfl
    rw [hopening, Text.splitOnChar_append (by decide) (by simp), splitOnChar_starred level hfeed]
    refine .inr ?_
    dsimp only
    rw [text_opening, List.map_append, List.map_singleton, text_closing, List.map_map]
    congr 2
    exact List.map_congr_left fun l hl => text_starred level (hcloser l hl)

end Annotation

end ServiceGraph
