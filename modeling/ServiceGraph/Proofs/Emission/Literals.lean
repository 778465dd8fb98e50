import ServiceGraph.Proofs.Emission.Types

/-!
The text of a value is that of a written type (`Emission.lexes_literal`), and so is any list of parts between
brackets or braces.
-/

namespace ServiceGraph

open Syntax

namespace Emission

open Token Written

/-! ## 1. Values as written types -/

/-- A number, with its sign apart. -/
def writtenNumber : List Char → Written
  | '-' :: digits => .number true (String.ofList digits)
  | digits => .number false (String.ofList digits)

mutual

/-- The type that spells a value. -/
def writtenLiteral : Json → Written
  | .null => .word "null"
  | .bool b => .word (if b then "true" else "false")
  | .number n => writtenNumber n.text.toList
  | .string s => .text s
  | .array items => .tuple (writtenItems items)
  | .object members => .object false (writtenMembers members)

def writtenItems : List Json → List Written
  | [] => []
  | x :: rest => writtenLiteral x :: writtenItems rest

def writtenMembers : List (String × Json) → List WrittenField
  | [] => []
  | (name, x) :: rest => ⟨none, name, false, writtenLiteral x⟩ :: writtenMembers rest

end

/-! ## 2. Parts between brackets -/

/-- A text is cut into tokens in front of whatever a name may stand in front of. -/
def LexesApart (text : String) (found : List Signature) : Prop :=
  ∀ tail : List Char, Breaks tail → Lexes text.toList found tail

/-- A field on one line, without a comment. -/
structure LexesAsField (text : String) (f : WrittenField) : Prop where
  comment : f.comment? = none
  required : f.isOptional = false
  text : LexesApart text (Written.property f.name :: sign ":" :: f.type.tokens)

variable {tail : List Char}

theorem lexesAsField (name : String) {text : String} {type : Written} (h : LexesApart text type.tokens) :
    LexesAsField (property name ++ ": " ++ text) ⟨none, name, false, type⟩ where
  comment := rfl
  required := rfl
  text tail hbreaks := by
    have htext : (property name ++ ": " ++ text).toList =
        (property name).toList ++ ([':'] ++ ([' '] ++ text.toList)) := by simp
    rw [htext]
    exact (lexes_property name (breaks_cons (by decide) _)).append <|
      (lexes_punctuation (c := ':') (by decide)).append <|
        (lexes_blank (c := ' ') (by decide)).append (h tail hbreaks)

theorem lexes_comma {rest : List Char} : Lexes (", " : String).toList [sign ","] rest :=
  (lexes_punctuation (c := ',') (by decide)).append (lexes_blank (c := ' ') (by decide))

theorem lexes_semicolon {rest : List Char} : Lexes ("; " : String).toList [sign ";"] rest :=
  (lexes_punctuation (c := ';') (by decide)).append (lexes_blank (c := ' ') (by decide))

/-- Items with commas between them. -/
theorem lexes_items : ∀ {texts : List String} {items : List Written},
    List.Forall₂ (fun text item => LexesApart text item.tokens) texts items → Breaks tail →
      Lexes (", ".intercalate texts).toList (itemTokens items) tail
  | [], [], .nil, _ => lexes_nil
  | [_], [item], .cons h .nil, hbreaks => by
      rw [String.intercalate_singleton, itemTokens, moreItems, List.append_nil]
      exact h tail hbreaks
  | _ :: _ :: _, item :: _ :: _, .cons h hrest, hbreaks => by
      rw [String.intercalate_cons_cons, String.toList_append, String.toList_append, List.append_assoc,
        itemTokens, moreItems]
      exact (h _ (breaks_cons (c := ',') (by decide) _)).append
        (lexes_comma.append (lexes_items hrest hbreaks))

/-- Fields with semicolons between them. -/
theorem lexes_fields : ∀ {texts : List String} {fields : List WrittenField},
    List.Forall₂ LexesAsField texts fields → Breaks tail →
      Lexes ("; ".intercalate texts).toList (fieldTokens false fields) tail
  | [], [], .nil, _ => lexes_nil
  | [_], [⟨comment?, name, isOptional, type⟩], .cons h .nil, hbreaks => by
      obtain rfl : comment? = none := h.comment
      obtain rfl : isOptional = false := h.required
      rw [String.intercalate_singleton]
      simpa [fieldTokens] using h.text tail hbreaks
  | _ :: _ :: _, ⟨comment?, name, isOptional, type⟩ :: _ :: _, .cons h hrest, hbreaks => by
      obtain rfl : comment? = none := h.comment
      obtain rfl : isOptional = false := h.required
      rw [String.intercalate_cons_cons, String.toList_append, String.toList_append, List.append_assoc]
      have hall := (h.text _ (breaks_cons (c := ';') (by decide) _)).append
        (lexes_semicolon.append (lexes_fields hrest hbreaks))
      simpa [fieldTokens] using hall

theorem lexes_bracketed {texts : List String} {items : List Written}
    (h : List.Forall₂ (fun text item => LexesApart text item.tokens) texts items) :
    Lexes (bracketed texts).toList (Written.tuple items).tokens tail := by
  have htext : (bracketed texts).toList = ['['] ++ ((", ".intercalate texts).toList ++ [']']) := by
    simp [bracketed]
  rw [htext, tokens]
  exact (lexes_punctuation (c := '[') (by decide)).append <|
    (lexes_items h (breaks_cons (by decide) _)).append (lexes_punctuation (c := ']') (by decide))

theorem lexes_braced {texts : List String} {fields : List WrittenField}
    (h : List.Forall₂ LexesAsField texts fields) :
    Lexes (braced texts).toList (Written.object false fields).tokens tail := by
  have hopen : ∀ rest : List Char, Lexes ['\x7b'] [sign "\x7b"] rest := fun _ =>
    lexes_punctuation (c := '\x7b') (by decide)
  have hclose : ∀ rest : List Char, Lexes ['\x7d'] [sign "\x7d"] rest := fun _ =>
    lexes_punctuation (c := '\x7d') (by decide)
  unfold braced
  split
  · cases h
    exact (hopen _).append (hclose _)
  · have htext : ("\x7b " ++ "; ".intercalate texts ++ " \x7d").toList =
        ['\x7b'] ++ ([' '] ++ (("; ".intercalate texts).toList ++ ([' '] ++ ['\x7d']))) := by
      simp
    rw [htext, tokens]
    exact (hopen _).append <| (lexes_blank (c := ' ') (by decide)).append <|
      (lexes_fields h (breaks_cons (by decide) _)).append <|
        (lexes_blank (c := ' ') (by decide)).append (hclose _)

/-! ## 3. Values -/

/-- A numeral has no sign, and starts with a digit. -/
theorem writtenNumber_of_isNumeral {s : List Char} (h : IsNumeral s) :
    writtenNumber s = .number false (String.ofList s) ∧ ∃ c rest, s = c :: rest ∧ c.isDigit = true := by
  obtain ⟨c, rest, rfl, hc⟩ : ∃ c rest, s = c :: rest ∧ c.isDigit = true := by
    obtain ⟨whole, fraction, exponent, rfl, hne, hwhole, -⟩ := h.parts
    cases whole with
    | nil => exact absurd rfl hne
    | cons c whole => exact ⟨c, _, rfl, (Bool.and_eq_true_iff.mp hwhole).1⟩
  refine ⟨?_, c, rest, rfl, hc⟩
  unfold writtenNumber
  split
  · rename_i heq
    rw [(List.cons.inj heq).1] at hc
    cases hc
  · rfl

theorem lexes_writtenNumber {s : List Char} (h : Json.IsSignedNumeral s) (hbreaks : Breaks tail) :
    Lexes s (writtenNumber s).tokens tail := by
  rcases h with h | ⟨digits, rfl, h⟩
  · rw [(writtenNumber_of_isNumeral h).1]
    exact lexes_number h hbreaks
  · obtain ⟨-, c, rest, rfl, hc⟩ := writtenNumber_of_isNumeral h
    have hoperator : ['?', '-', '|', '<', '=', '.'].contains c = false := by
      have hall : ['?', '-', '|', '<', '=', '.'].all (!·.isDigit) = true := by decide
      rw [Bool.eq_false_iff]
      intro hmem
      have hdigit := List.all_eq_true.mp hall c (List.contains_iff_mem.mp hmem)
      rw [hc] at hdigit
      cases hdigit
    exact (lexes_operator (c := '-') (by decide) hoperator).append (lexes_number h hbreaks)

theorem isSignedNumeral_of_jsonNumber? {n : Number} (h : TypeExpr.jsonNumber? n.text = some (.number n)) :
    Json.IsSignedNumeral n.text.toList := by
  rw [TypeExpr.jsonNumber?] at h
  split at h
  · rename_i m hm
    rw [Json.number.inj (Option.some.inj h)] at hm
    exact Json.isSignedNumeral_of_parse? hm
  · cases h

mutual

/-- **The text of a value is cut into the tokens of the type that spells it.** -/
theorem lexes_literal (d : Json) (h : d.Spellable) : LexesApart (literal d) (writtenLiteral d).tokens := by
  intro tail hbreaks
  match d with
  | .null =>
    unfold literal writtenLiteral
    exact lexes_word "null" (by decide) hbreaks
  | .bool b =>
    unfold literal writtenLiteral
    cases b <;> exact lexes_word _ (by decide) hbreaks
  | .number n =>
    rw [Json.Spellable] at h
    unfold literal writtenLiteral
    exact lexes_writtenNumber (isSignedNumeral_of_jsonNumber? h) hbreaks
  | .string s =>
    unfold literal writtenLiteral
    exact lexes_quote s
  | .array items =>
    rw [Json.Spellable] at h
    unfold literal writtenLiteral
    exact lexes_bracketed (lexes_literalItems items h)
  | .object members =>
    rw [Json.Spellable] at h
    unfold literal writtenLiteral
    exact lexes_braced (lexes_literalMembers members h.2)

theorem lexes_literalItems (items : List Json) (h : Json.SpellableItems items) :
    List.Forall₂ (fun text item => LexesApart text item.tokens) (literalItems items) (writtenItems items) := by
  match items with
  | [] => exact .nil
  | x :: rest =>
    rw [Json.SpellableItems] at h
    unfold literalItems writtenItems
    exact .cons (lexes_literal x h.1) (lexes_literalItems rest h.2)

theorem lexes_literalMembers (members : List (String × Json)) (h : Json.SpellableMembers members) :
    List.Forall₂ LexesAsField (literalMembers members) (writtenMembers members) := by
  match members with
  | [] => exact .nil
  | (name, x) :: rest =>
    rw [Json.SpellableMembers] at h
    unfold literalMembers writtenMembers
    exact .cons (lexesAsField name (lexes_literal x h.2.1)) (lexes_literalMembers rest h.2.2)

end

/-! ## 4. Reading the written values -/

theorem sound_writtenNumber {s : List Char} (h : Json.IsSignedNumeral s) : (writtenNumber s).Sound := by
  rcases h with h | ⟨digits, rfl, h⟩
  · rw [(writtenNumber_of_isNumeral h).1]
    simpa [Written.Sound] using h
  · simpa [writtenNumber, Written.Sound] using h

mutual

/-- **The type that spells a value can be read back.** -/
theorem sound_writtenLiteral (d : Json) (h : d.Spellable) : (writtenLiteral d).Sound := by
  match d with
  | .null =>
    change "null" ∈ words
    decide
  | .bool b =>
    change (if b then "true" else "false") ∈ words
    cases b <;> decide
  | .number n =>
    rw [Json.Spellable] at h
    exact sound_writtenNumber (isSignedNumeral_of_jsonNumber? h)
  | .string s =>
    rw [Json.Spellable] at h
    exact h
  | .array items =>
    rw [Json.Spellable] at h
    exact sound_writtenItems items h
  | .object members =>
    rw [Json.Spellable] at h
    exact sound_writtenMembers members h.2

theorem sound_writtenItems (items : List Json) (h : Json.SpellableItems items) :
    SoundItems (writtenItems items) := by
  match items with
  | [] => trivial
  | x :: rest =>
    rw [Json.SpellableItems] at h
    exact ⟨sound_writtenLiteral x h.1, sound_writtenItems rest h.2⟩

theorem sound_writtenMembers (members : List (String × Json)) (h : Json.SpellableMembers members) :
    SoundFields (writtenMembers members) := by
  match members with
  | [] => trivial
  | (name, x) :: rest =>
    rw [Json.SpellableMembers] at h
    exact ⟨by simp, h.1, sound_writtenLiteral x h.2.1, sound_writtenMembers rest h.2.2⟩

end

end Emission

end ServiceGraph
