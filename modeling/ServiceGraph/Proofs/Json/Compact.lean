import ServiceGraph.Proofs.Json.Numerals
import ServiceGraph.Proofs.Text.Lines
import ServiceGraph.Proofs.Text.Quoted

/-!
The compact text of a value stands on one line (`Json.feed_compact`) and has no blanks at its ends
(`Json.hasInkEnds_compact`).
-/

namespace ServiceGraph

namespace Text

theorem feed_quoteChar (c : Char) : '\n' ∉ quoteChar c := by
  have hhex : ∀ n : Fin 16, hexDigit n.val ≠ '\n' := by decide
  have hshort : ∀ e ∈ shortEscapes, e.2 ≠ '\n' := by decide
  have hquotes := quotes_quoteChar c
  generalize quoteChar c = written at hquotes
  cases hquotes with
  | plain _ _ hvisible =>
    rw [List.mem_singleton]
    rintro rfl
    exact absurd hvisible (by decide)
  | short h => simp [Ne.symm (hshort _ h)]
  | code hcontrol _ =>
    have hhigh := hhex ⟨c.toNat / 16, by omega⟩
    have hlow := hhex ⟨c.toNat % 16, Nat.mod_lt _ (by decide)⟩
    simp [Ne.symm hhigh, Ne.symm hlow]

theorem feed_quote (s : String) : '\n' ∉ (quote s).toList := by
  simp only [quote, quoteBody, String.toList_ofList, List.cons_append, List.mem_cons, List.mem_append,
    List.mem_flatMap, List.not_mem_nil, or_false, not_or, not_exists, not_and]
  exact ⟨by decide, fun c _ => feed_quoteChar c, by decide⟩

end Text

namespace Json

theorem feed_joined {opening closing : String} {parts : List String} (ho : '\n' ∉ opening.toList)
    (hc : '\n' ∉ closing.toList) (h : ∀ p ∈ parts, '\n' ∉ p.toList) :
    '\n' ∉ (opening ++ ",".intercalate parts ++ closing).toList := by
  rw [String.toList_append, String.toList_append, String.toList_intercalate, List.mem_append,
    List.mem_append, not_or, not_or]
  refine ⟨⟨ho, fun hmem => ?_⟩, hc⟩
  rcases Text.mem_intercalate hmem with hmem | ⟨l, hl, hmem⟩
  · exact absurd hmem (by decide)
  · obtain ⟨p, hp, rfl⟩ := List.mem_map.mp hl
    exact h p hp hmem

mutual

/-- The compact text is one line. -/
theorem feed_compact : ∀ d : Json, '\n' ∉ d.compact.toList
  | .null => by decide
  | .bool true => by decide
  | .bool false => by decide
  | .number n => by
      intro hmem
      have hvisible := List.all_eq_true.mp n.visible_text '\n' hmem
      cases hvisible
  | .string s => Text.feed_quote s
  | .array items => feed_joined (by decide) (by decide) (feed_compactItems items)
  | .object members => feed_joined (by decide) (by decide) (feed_compactMembers members)

theorem feed_compactItems : ∀ items : List Json, ∀ p ∈ compactItems items, '\n' ∉ p.toList
  | [], _, h => by cases h
  | x :: rest, p, h => by
      rcases List.mem_cons.mp h with rfl | h
      · exact feed_compact x
      · exact feed_compactItems rest p h

theorem feed_compactMembers : ∀ members : List (String × Json), ∀ p ∈ compactMembers members,
    '\n' ∉ p.toList
  | [], _, h => by cases h
  | (k, x) :: rest, p, h => by
      rcases List.mem_cons.mp h with rfl | h
      · rw [String.toList_append, String.toList_append, List.mem_append, List.mem_append, not_or, not_or]
        exact ⟨⟨Text.feed_quote k, by decide⟩, feed_compact x⟩
      · exact feed_compactMembers rest p h

end

/-- A text that starts and ends with something that shows. -/
structure HasInkEnds (s : List Char) : Prop where
  nonempty : s ≠ []
  first : ∀ c ∈ s.head?, Text.isWhiteSpace c = false
  last : ∀ c ∈ s.getLast?, Text.isWhiteSpace c = false

theorem hasInkEnds_between {a b : Char} (ha : Text.isWhiteSpace a = false) (hb : Text.isWhiteSpace b = false)
    (s : List Char) : HasInkEnds (a :: (s ++ [b])) := by
  refine ⟨by simp, ?_, ?_⟩
  · intro c hc
    cases hc
    exact ha
  · intro c hc
    rw [← List.cons_append, List.getLast?_append] at hc
    cases hc
    exact hb

theorem isWhiteSpace_of_isVisible {c : Char} (h : Text.isVisible c = true) :
    Text.isWhiteSpace c = false := by
  simp only [Text.isVisible, Bool.and_eq_true, decide_eq_true_eq] at h
  have h₁ : c.toNat < 128 := by omega
  have h₂ : c.toNat ≠ 32 := by omega
  have h₃ : ¬ c.toNat ≤ 13 := by omega
  simp [Text.isWhiteSpace, h₁, h₂, h₃]

theorem hasInkEnds_of_visible {s : List Char} (hne : s ≠ []) (h : s.all Text.isVisible = true) :
    HasInkEnds s := by
  rw [List.all_eq_true] at h
  exact ⟨hne, fun c hc => isWhiteSpace_of_isVisible (h c (List.mem_of_mem_head? hc)),
    fun c hc => isWhiteSpace_of_isVisible (h c (List.mem_of_getLast? hc))⟩

theorem HasInkEnds.trim_eq {s : List Char} (h : HasInkEnds s) : Text.trim s = s :=
  Text.dropEnds_eq_self h.first h.last

/-- The compact text of a value that is read back from it starts and ends with something that shows. -/
theorem hasInkEnds_compact {d : Json} (h : parse? d.compact = some d) : HasInkEnds d.compact.toList := by
  cases d with
  | null => exact hasInkEnds_between (by decide) (by decide) ['u', 'l']
  | bool b =>
    cases b
    · exact hasInkEnds_between (by decide) (by decide) ['a', 'l', 's']
    · exact hasInkEnds_between (by decide) (by decide) ['r', 'u']
  | number n =>
    exact hasInkEnds_of_visible (numberParts_of_isSignedNumeral (isSignedNumeral_of_parse? h)).1 n.visible_text
  | string s =>
    have hends := hasInkEnds_between (a := '"') (b := '"') (by decide) (by decide) (Text.quoteBody s.toList)
    simpa [compact, Text.quote] using hends
  | array items =>
    have hends := hasInkEnds_between (a := '[') (b := ']') (by decide) (by decide)
      (",".intercalate (compactItems items)).toList
    simpa [compact] using hends
  | object members =>
    have hends := hasInkEnds_between (a := '\x7b') (b := '\x7d') (by decide) (by decide)
      (",".intercalate (compactMembers members)).toList
    simpa [compact] using hends

end Json

end ServiceGraph
