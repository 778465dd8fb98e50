import ServiceGraph.Syntax.Token
import ServiceGraph.Text.Quoted

/-!
Quoted texts are read back.

A text between quotes is one string token (`Token.stringLength?_quoteBody`), and resolving its escapes gives
the text again (`Text.unquote_quote`). Two controls are excepted: JSON has short escapes for the backspace
and the form feed, and `unquote` knows neither of them, so it reads their letters instead
(`Text.unquote_quote_eq_self_iff`).
-/

namespace ServiceGraph.Text

/-- Whether reading back a quoted character gives the character. -/
def isQuotable (c : Char) : Bool := c.toNat != 8 && c.toNat != 12

/-- Whether reading back a quoted text gives the text. -/
def IsQuotable (s : String) : Prop := ∀ c ∈ s.toList, isQuotable c = true

instance (s : String) : Decidable (IsQuotable s) := List.decidableBAll (isQuotable · = true) s.toList

/-- The character that a quoted one is read back as: the letters of the two short escapes that are not
known, and otherwise the character itself. -/
def readBack (c : Char) : Char := if c.toNat = 8 then 'b' else if c.toNat = 12 then 'f' else c

/-! ## 1. One character -/

/-- The short escapes: a character, and what stands for it behind a backslash. -/
def shortEscapes : List (Char × Char) :=
  [('"', '"'), ('\\', '\\'), ('\n', 'n'), ('\r', 'r'), ('\t', 't'), (Char.ofNat 8, 'b'), (Char.ofNat 12, 'f')]

/-- The three ways in which a character is written inside a JSON string. -/
inductive Quotes (c : Char) : List Char → Prop
  | plain : c ≠ '"' → c ≠ '\\' → 32 ≤ c.toNat → Quotes c [c]
  | short {letter : Char} : (c, letter) ∈ shortEscapes → Quotes c ['\\', letter]
  | code : c.toNat < 32 → isQuotable c = true →
      Quotes c ['\\', 'u', '0', '0', hexDigit (c.toNat / 16), hexDigit (c.toNat % 16)]

theorem quotes_quoteChar (c : Char) : Quotes c (quoteChar c) := by
  have hcode : ∀ n : Nat, c.toNat = n → c = Char.ofNat n := by
    rintro n rfl
    exact (Char.ofNat_toNat c).symm
  unfold quoteChar
  split
  · exact .short (by simp [shortEscapes, *])
  · split
    · exact .short (by simp [shortEscapes, *])
    · split
      · exact .short (by simp [shortEscapes, *])
      · split
        · exact .short (by simp [shortEscapes, *])
        · split
          · exact .short (by simp [shortEscapes, *])
          · split
            · rename_i hback
              exact .short (by simp [shortEscapes, hcode 8 hback])
            · split
              · rename_i hfeed
                exact .short (by simp [shortEscapes, hcode 12 hfeed])
              · split
                · rename_i hback hfeed hcontrol
                  exact .code hcontrol (by simp [isQuotable, hback, hfeed])
                · rename_i hquote hbackslash _ _ _ _ _ hcontrol
                  exact .plain hquote hbackslash (Nat.le_of_not_lt hcontrol)

theorem resolveEscapes_cons {c : Char} (h : c ≠ '\\') (rest : List Char) :
    resolveEscapes (c :: rest) = c :: resolveEscapes rest := by
  rw [resolveEscapes.eq_def]
  split <;> simp_all

theorem unicodeEscape_control (n : Fin 32) :
    unicodeEscape ['0', '0', hexDigit (n.val / 16), hexDigit (n.val % 16)] = [Char.ofNat n.val] := by
  revert n
  decide

theorem readBack_eq_self {c : Char} (h : isQuotable c = true) : readBack c = c := by
  simp only [isQuotable, Bool.and_eq_true, bne_iff_ne] at h
  rw [readBack, if_neg h.1, if_neg h.2]

theorem readBack_ne_self {c : Char} (h : isQuotable c = false) : readBack c ≠ c := by
  intro heq
  simp only [isQuotable, Bool.and_eq_false_iff, bne_eq_false_iff_eq] at h
  unfold readBack at heq
  rcases h with h | h
  · rw [if_pos h] at heq
    subst heq
    exact absurd h (by decide)
  · rw [if_neg (by omega), if_pos h] at heq
    subst heq
    exact absurd h (by decide)

/-- What is written for a character resolves to what it is read back as, whatever follows. -/
theorem resolveEscapes_quoteChar (c : Char) (rest : List Char) :
    resolveEscapes (quoteChar c ++ rest) = readBack c :: resolveEscapes rest := by
  have hshort : ∀ e ∈ shortEscapes, resolveEscapes ('\\' :: e.2 :: rest) = readBack e.1 :: resolveEscapes rest := by
    simp only [shortEscapes, List.forall_mem_cons]
    exact ⟨rfl, rfl, rfl, rfl, rfl, rfl, rfl, by simp⟩
  have hquotes := quotes_quoteChar c
  generalize quoteChar c = written at hquotes
  cases hquotes with
  | plain _ hbackslash hvisible =>
    have hquotable : isQuotable c = true := by
      simp only [isQuotable, Bool.and_eq_true, bne_iff_ne]
      omega
    rw [readBack_eq_self hquotable]
    exact resolveEscapes_cons hbackslash rest
  | short h => exact hshort _ h
  | code hcontrol hquotable =>
    have hu := unicodeEscape_control ⟨c.toNat, hcontrol⟩
    simp only [List.cons_append, List.nil_append, resolveEscapes]
    rw [hu, Char.ofNat_toNat, readBack_eq_self hquotable]
    rfl

/-! ## 2. Whole texts -/

theorem resolveEscapes_quoteBody : ∀ s : List Char, resolveEscapes (quoteBody s) = s.map readBack
  | [] => rfl
  | c :: rest => by
      rw [quoteBody, List.flatMap_cons, resolveEscapes_quoteChar, List.map_cons]
      exact congrArg (readBack c :: ·) (resolveEscapes_quoteBody rest)

theorem stripQuotes_quoted (body : List Char) : stripQuotes ('"' :: (body ++ ['"'])) = body := by
  unfold stripQuotes
  simp

/-- A quoted text is read back character by character. -/
theorem toList_unquote_quote (s : String) : (unquote (quote s)).toList = s.toList.map readBack := by
  unfold unquote quote
  rw [String.toList_ofList, String.toList_ofList, List.cons_append, stripQuotes_quoted, resolveEscapes_quoteBody]

/-- **A quoted text is read back.** -/
theorem unquote_quote {s : String} (h : IsQuotable s) : unquote (quote s) = s := by
  rw [← String.toList_inj, toList_unquote_quote, List.map_congr_left fun c hc => readBack_eq_self (h c hc),
    List.map_id']

/-- **A text survives being quoted and read back exactly if it has neither a backspace nor a form feed**; these
come back as the letters of their short escapes, and every other character as itself. -/
theorem unquote_quote_eq_self_iff (s : String) :
    unquote (quote s) = String.ofList (s.toList.map readBack) ∧ (unquote (quote s) = s ↔ IsQuotable s) := by
  refine ⟨by rw [← toList_unquote_quote, String.ofList_toList], fun heq c hc => ?_, unquote_quote⟩
  have hsame : s.toList.map readBack = s.toList.map id := by
    rw [← toList_unquote_quote, heq, List.map_id]
  cases hlost : isQuotable c with
  | true => rfl
  | false => exact absurd (List.map_inj_left.mp hsame c hc) (readBack_ne_self hlost)

/-- A backspace comes back as a letter. -/
theorem backspace_lost :
    quote "\x08" = "\"\\b\"" ∧ unquote (quote "\x08") = "b" ∧ ¬ ∀ s, unquote (quote s) = s := by
  have hletter : unquote (quote "\x08") = "b" := by decide
  refine ⟨by decide, hletter, fun hall => ?_⟩
  rw [hall "\x08"] at hletter
  exact absurd hletter (by decide)

end ServiceGraph.Text

namespace ServiceGraph.Syntax.Token

open Text

/-! ## 3. As a token -/

theorem stringLength?_cons {q c : Char} (hq : c ≠ q) (hb : c ≠ '\\') (hn : c ≠ '\n') (hr : c ≠ '\r')
    (rest : List Char) : stringLength? q (c :: rest) = (stringLength? q rest).map (· + 1) := by
  rw [stringLength?.eq_def]
  split <;> simp_all

theorem stringLength?_escape {q c : Char} (hr : c ≠ '\r') (rest : List Char) :
    stringLength? q ('\\' :: c :: rest) = (stringLength? q rest).map (· + 2) := by
  rw [stringLength?.eq_def]
  split
  · simp_all
  · simp_all
  · rename_i hother heq
    cases heq
    exact absurd rfl (hother c rest rfl)
  · rename_i heq
    cases heq

theorem hexDigit_plain {n : Nat} (h : n < 16) :
    hexDigit n ≠ '"' ∧ hexDigit n ≠ '\\' ∧ hexDigit n ≠ '\n' ∧ hexDigit n ≠ '\r' := by
  have hall : ∀ m : Fin 16, hexDigit m.val ≠ '"' ∧ hexDigit m.val ≠ '\\' ∧ hexDigit m.val ≠ '\n' ∧
      hexDigit m.val ≠ '\r' := by decide
  exact hall ⟨n, h⟩

/-- What is written for a character does not end a string. -/
theorem stringLength?_quoteChar (c : Char) (rest : List Char) :
    stringLength? '"' (quoteChar c ++ rest) =
      (stringLength? '"' rest).map (· + (quoteChar c).length) := by
  have hadd : ∀ (o : Option Nat) (m n : Nat), (o.map (· + m)).map (· + n) = o.map (· + (m + n)) := by
    intro o m n
    cases o <;> simp [Nat.add_assoc]
  have hquotes := quotes_quoteChar c
  generalize quoteChar c = written at hquotes
  cases hquotes with
  | plain hquote hbackslash hvisible =>
    have hcontrol : ∀ d : Char, d.toNat < 32 → c ≠ d := by
      rintro d hd rfl
      omega
    exact stringLength?_cons hquote hbackslash (hcontrol '\n' (by decide)) (hcontrol '\r' (by decide)) rest
  | short h =>
    have hreturn : ∀ e ∈ shortEscapes, e.2 ≠ '\r' := by decide
    exact stringLength?_escape (hreturn _ h) rest
  | code hcontrol _ =>
    have hhigh := @hexDigit_plain (c.toNat / 16) (by omega)
    have hlow := @hexDigit_plain (c.toNat % 16) (by omega)
    simp only [List.cons_append, List.nil_append]
    rw [stringLength?_escape (by decide),
      stringLength?_cons (by decide) (by decide) (by decide) (by decide),
      stringLength?_cons (by decide) (by decide) (by decide) (by decide),
      stringLength?_cons hhigh.1 hhigh.2.1 hhigh.2.2.1 hhigh.2.2.2,
      stringLength?_cons hlow.1 hlow.2.1 hlow.2.2.1 hlow.2.2.2]
    simp only [hadd]
    rfl

/-- A quoted text ends with its closing quote, whatever follows. -/
theorem stringLength?_quoteBody : ∀ s tail : List Char,
    stringLength? '"' (quoteBody s ++ '"' :: tail) = some ((quoteBody s).length + 1)
  | [], tail => rfl
  | c :: rest, tail => by
      rw [quoteBody, List.flatMap_cons, List.append_assoc, stringLength?_quoteChar]
      change (stringLength? '"' (quoteBody rest ++ '"' :: tail)).map _ = _
      rw [stringLength?_quoteBody rest tail, List.length_append]
      simp only [Option.map_some, quoteBody]
      congr 1
      omega

end ServiceGraph.Syntax.Token
