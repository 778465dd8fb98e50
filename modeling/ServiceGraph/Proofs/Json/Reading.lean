import ServiceGraph.Proofs.Json.Numerals
import ServiceGraph.Proofs.Text.Quoted

/-!
The texts of strings and numbers in a document are read back.

A quoted text is read up to its closing quote (`Json.readString_quote`). A number is read the same whatever stands
behind it, as long as that does not go on with the number (`Json.leaves_readNumber`), and a number that a document can
hold is read back from its text (`Json.readNumber_text`).
-/

namespace ServiceGraph

open Text

namespace Json

/-! ## 1. Strings -/

/-- The code of a control is read back. -/
theorem readUnicode_control (n : Fin 32) (rest : List Char) :
    readUnicode ('0' :: '0' :: hexDigit (n.val / 16) :: hexDigit (n.val % 16) :: rest) =
      some (Char.ofNat n.val, rest) := by
  have hnumber : ∀ m : Fin 32, hexNumber? ['0', '0', hexDigit (m.val / 16), hexDigit (m.val % 16)] = some m.val := by
    decide
  have hchar : ∀ m : Fin 32, charOfCode? m.val = some (Char.ofNat m.val) := by decide
  have hsurrogate : ¬ (0xD800 ≤ n.val ∧ n.val < 0xDC00) := by omega
  simp only [readUnicode, readCode, hnumber n, Option.map_some, Option.bind_eq_bind, Option.bind_some,
    if_neg hsurrogate, hchar n, Option.pure_def]

theorem readStringBody_cons {c : Char} (hquote : c ≠ '"') (hbackslash : c ≠ '\\') (hcontrol : ¬ c.toNat < 32)
    (fuel : Nat) (s : List Char) : readStringBody (fuel + 1) (c :: s) =
      (readStringBody fuel s).map fun r => (c :: r.1, r.2) := by
  rw [readStringBody]
  · rw [if_neg hcontrol]
    cases readStringBody fuel s <;> rfl
  · exact hquote
  · exact hbackslash

theorem readStringBody_escape {s rest : List Char} {c : Char} (h : readEscape s = some (c, rest)) (fuel : Nat) :
    readStringBody (fuel + 1) ('\\' :: s) = (readStringBody fuel rest).map fun r => (c :: r.1, r.2) := by
  rw [readStringBody, h, Option.bind_eq_bind, Option.bind_some]
  dsimp only
  cases readStringBody fuel rest <;> rfl

/-- What is written for a character is read as the character. -/
theorem readStringBody_quoteChar (c : Char) (fuel : Nat) (s : List Char) :
    readStringBody (fuel + 1) (quoteChar c ++ s) = (readStringBody fuel s).map fun r => (c :: r.1, r.2) := by
  have hshort : ∀ e ∈ shortEscapes, readEscape (e.2 :: s) = some (e.1, s) := by
    simp only [shortEscapes, List.forall_mem_cons]
    exact ⟨rfl, rfl, rfl, rfl, rfl, rfl, rfl, by simp⟩
  have hquotes := quotes_quoteChar c
  generalize quoteChar c = written at hquotes
  cases hquotes with
  | plain hquote hbackslash hvisible =>
    exact readStringBody_cons hquote hbackslash (Nat.not_lt_of_le hvisible) fuel s
  | short h => exact readStringBody_escape (hshort _ h) fuel
  | code hcontrol _ =>
    have hread : readEscape ('u' :: '0' :: '0' :: hexDigit (c.toNat / 16) :: hexDigit (c.toNat % 16) :: s) =
        some (Char.ofNat c.toNat, s) := readUnicode_control ⟨c.toNat, hcontrol⟩ s
    rw [Char.ofNat_toNat] at hread
    exact readStringBody_escape hread fuel

theorem readStringBody_quoteBody (tail : List Char) : ∀ (s : List Char) (fuel : Nat), s.length < fuel →
    readStringBody fuel (quoteBody s ++ '"' :: tail) = some (s, tail)
  | [], fuel + 1, _ => rfl
  | c :: s, fuel + 1, h => by
      have hrest : s.length < fuel := Nat.lt_of_succ_lt_succ h
      rw [quoteBody, List.flatMap_cons, List.append_assoc, readStringBody_quoteChar]
      change (readStringBody fuel (quoteBody s ++ '"' :: tail)).map _ = _
      rw [readStringBody_quoteBody tail s fuel hrest]
      rfl

theorem length_le_quoteBody (s : List Char) : s.length ≤ (quoteBody s).length := by
  have hchar : ∀ c, 1 ≤ (quoteChar c).length := by
    intro c
    have hquotes := quotes_quoteChar c
    generalize quoteChar c = written at hquotes
    cases hquotes <;> simp
  induction s with
  | nil => exact Nat.le_refl 0
  | cons c s ih =>
    have hlength : (quoteBody (c :: s)).length = (quoteChar c).length + (quoteBody s).length := by
      simp [quoteBody]
    have hc := hchar c
    rw [hlength, List.length_cons]
    omega

/-- A quoted text is read up to its closing quote. -/
theorem readString_quote (s : String) (tail : List Char) :
    readString (quoteBody s.toList ++ '"' :: tail) = some (s, tail) := by
  have hfuel : s.toList.length < (quoteBody s.toList ++ '"' :: tail).length + 1 := by
    have hle := length_le_quoteBody s.toList
    rw [List.length_append]
    omega
  rw [readString, readStringBody_quoteBody tail _ _ hfuel, Option.map_some]
  exact congrArg (fun t => some (t, tail)) String.ofList_toList

/-! ## 2. Numbers -/

/-- A text that does not go on with a number in front of it. -/
def Stops (tail : List Char) : Prop := ∀ c ∈ tail.head?, isNumberPart c = false

section

variable {tail : List Char}

theorem stops_cons {c : Char} (h : isNumberPart c = false) (rest : List Char) : Stops (c :: rest) := by
  intro d hd
  cases hd
  exact h

theorem Stops.head_ne (h : Stops tail) {c : Char} (hc : isNumberPart c = true) (rest : List Char) :
    tail ≠ c :: rest := by
  rintro rfl
  rw [h c rfl] at hc
  cases hc

theorem spanDigits_append (h : Stops tail) (s : List Char) :
    spanDigits (s ++ tail) = ((spanDigits s).1, (spanDigits s).2 ++ tail) := by
  have hdigit : ∀ c ∈ tail.head?, c.isDigit = false := fun c hc => (Bool.or_eq_false_iff.mp (h c hc)).1
  simp only [spanDigits, List.span_eq_takeWhile_dropWhile]
  induction s with
  | nil =>
    cases tail with
    | nil => rfl
    | cons c rest =>
      have hc := hdigit c rfl
      rw [List.nil_append, List.takeWhile_cons_of_neg (by simp [hc]), List.dropWhile_cons_of_neg (by simp [hc])]
      rfl
  | cons c s ih =>
    rw [List.cons_append]
    cases hc : c.isDigit with
    | true =>
      rw [List.takeWhile_cons_of_pos hc, List.dropWhile_cons_of_pos hc, List.takeWhile_cons_of_pos hc,
        List.dropWhile_cons_of_pos hc, (Prod.mk.inj ih).1, (Prod.mk.inj ih).2]
    | false =>
      have hneg : ¬ c.isDigit = true := by simp [hc]
      rw [List.takeWhile_cons_of_neg hneg, List.dropWhile_cons_of_neg hneg, List.takeWhile_cons_of_neg hneg,
        List.dropWhile_cons_of_neg hneg, List.cons_append]

/-- A step that leaves more if more follows. -/
def Leaves {α : Type} (step : Step α) (s tail : List Char) : Prop :=
  step (s ++ tail) = (step s).map fun r => (r.1, r.2 ++ tail)

theorem leaves_readWhole (h : Stops tail) (s : List Char) : Leaves readWhole s tail := by
  unfold Leaves readWhole
  rw [spanDigits_append h]
  rcases spanDigits s with ⟨digits, rest⟩
  match digits with
  | [] => rfl
  | [c] => by_cases hc : c = '0' <;> simp [hc]
  | c :: d :: more => by_cases hc : c = '0' <;> simp [hc]

theorem leaves_readFraction (h : Stops tail) (s : List Char) : Leaves readFraction s tail := by
  have hnone : ∀ t : List Char, (∀ rest, t ≠ '.' :: rest) → readFraction t = some (none, t) := by
    intro t ht
    unfold readFraction
    split
    · exact absurd rfl (ht _)
    · rfl
  unfold Leaves
  cases s with
  | nil =>
    rw [hnone [] (by simp), List.nil_append, hnone tail (h.head_ne rfl)]
    rfl
  | cons c rest =>
    by_cases hpoint : c = '.'
    · subst hpoint
      rw [List.cons_append]
      simp only [readFraction, spanDigits_append h]
      rcases spanDigits rest with ⟨digits, left⟩
      cases digits <;> rfl
    · rw [hnone (c :: rest) (by simp [hpoint]), List.cons_append, hnone _ (by simp [hpoint])]
      rfl

/-- The exponent behind its letter, without a sign. -/
theorem readExponent_unsigned {t : List Char} (hplus : ∀ rest, t ≠ '+' :: rest) (hminus : ∀ rest, t ≠ '-' :: rest) :
    readExponent ('e' :: t) = match spanDigits t with
      | ([], _) => none
      | (digits, rest) =>
        some (some ((digits.foldl (fun n c => n * 10 + digitValue c) 0 : Nat) : Int), rest) := by
  rw [readExponent]
  · rfl
  · exact hplus
  · exact hminus

theorem leaves_readExponent (h : Stops tail) (s : List Char) : Leaves readExponent s tail := by
  have hletter : ∀ t, readExponent ('e' :: (t ++ tail)) =
      (readExponent ('e' :: t)).map fun r => (r.1, r.2 ++ tail) := by
    intro t
    by_cases hsign : ∃ c rest, t = c :: rest ∧ (c = '+' ∨ c = '-')
    · obtain ⟨c, rest, rfl, rfl | rfl⟩ := hsign <;>
      · simp only [List.cons_append, readExponent, spanDigits_append h]
        rcases spanDigits rest with ⟨digits, left⟩
        cases digits <;> rfl
    · have hplus : ∀ rest, t ≠ '+' :: rest := fun rest heq => hsign ⟨_, rest, heq, .inl rfl⟩
      have hminus : ∀ rest, t ≠ '-' :: rest := fun rest heq => hsign ⟨_, rest, heq, .inr rfl⟩
      have happend : ∀ c, isNumberPart c = true → (∀ rest, t ≠ c :: rest) → ∀ rest, t ++ tail ≠ c :: rest := by
        intro c hc ht rest heq
        cases t with
        | nil => exact h.head_ne hc rest heq
        | cons d t => exact ht t (by rw [(List.cons.inj heq).1])
      rw [readExponent_unsigned hplus hminus,
        readExponent_unsigned (happend '+' rfl hplus) (happend '-' rfl hminus), spanDigits_append h]
      rcases spanDigits t with ⟨digits, left⟩
      cases digits <;> rfl
  have hnone : ∀ t : List Char, (∀ rest, t ≠ 'e' :: rest) → (∀ rest, t ≠ 'E' :: rest) →
      readExponent t = some (none, t) := by
    intro t hsmall hlarge
    unfold readExponent
    split
    · exact absurd rfl (hsmall _)
    · exact absurd rfl (hlarge _)
    · rfl
  unfold Leaves
  cases s with
  | nil =>
    rw [hnone [] (by simp) (by simp), List.nil_append, hnone tail (h.head_ne rfl) (h.head_ne rfl)]
    rfl
  | cons c rest =>
    by_cases hsmall : c = 'e'
    · subst hsmall
      exact hletter rest
    · by_cases hlarge : c = 'E'
      · subst hlarge
        exact hletter rest
      · rw [hnone (c :: rest) (by simp [hsmall]) (by simp [hlarge]), List.cons_append,
          hnone _ (by simp [hsmall]) (by simp [hlarge])]
        rfl

/-- The number behind a sign, or without one. -/
def readUnsigned (negative : Bool) (s : List Char) : Option (Number × List Char) := do
  let (whole, s) ← readWhole s
  let (fraction, s) ← readFraction s
  let (exponent, s) ← readExponent s
  let n ← numberOfParts negative whole fraction exponent
  pure (n, s)

theorem readNumber_minus (s : List Char) : readNumber ('-' :: s) = readUnsigned true s := rfl

theorem readNumber_plain {s : List Char} (h : ∀ rest, s ≠ '-' :: rest) : readNumber s = readUnsigned false s := by
  unfold readNumber
  split
  rename_i hsign
  split at hsign
  · exact absurd rfl (h _)
  · obtain ⟨rfl, rfl⟩ := Prod.mk.inj hsign
    rfl

theorem leaves_readUnsigned (h : Stops tail) (negative : Bool) (s : List Char) :
    Leaves (readUnsigned negative) s tail := by
  unfold Leaves readUnsigned
  rw [leaves_readWhole h s]
  cases readWhole s with
  | none => rfl
  | some whole =>
    simp only [Option.map_some, Option.bind_eq_bind, Option.bind_some]
    rw [leaves_readFraction h whole.2]
    cases readFraction whole.2 with
    | none => rfl
    | some fraction =>
      simp only [Option.map_some, Option.bind_some]
      rw [leaves_readExponent h fraction.2]
      cases readExponent fraction.2 with
      | none => rfl
      | some exponent =>
        simp only [Option.map_some, Option.bind_some]
        cases numberOfParts negative whole.1 fraction.1 exponent.1 <;> rfl

/-- **A number is read the same whatever stands behind it**, unless it goes on with the number. -/
theorem leaves_readNumber (h : Stops tail) (s : List Char) : Leaves readNumber s tail := by
  unfold Leaves
  cases s with
  | nil =>
    rw [List.nil_append, readNumber_plain (h.head_ne rfl), readNumber_plain (by simp)]
    exact leaves_readUnsigned h false []
  | cons c rest =>
    by_cases hminus : c = '-'
    · subst hminus
      exact leaves_readUnsigned h true rest
    · rw [List.cons_append, readNumber_plain (by simp [hminus]), readNumber_plain (by simp [hminus])]
      exact leaves_readUnsigned h false (c :: rest)

end

/-- Digits are gathered as long as their value fits. -/
theorem gather_eq : ∀ (digits : List Char) (value : Nat),
    digits.foldl (fun k c => k * 10 + digitValue c) value ≤ largestWhole →
      gather value digits = (digits.foldl (fun k c => k * 10 + digitValue c) value, 0)
  | [], _, _ => rfl
  | c :: rest, value, h => by
      have hgrows : ∀ (digits : List Char) (k : Nat), k ≤ digits.foldl (fun k c => k * 10 + digitValue c) k := by
        intro digits
        induction digits with
        | nil => exact fun k => Nat.le_refl k
        | cons d digits ih =>
          intro k
          have hrest := ih (k * 10 + digitValue d)
          rw [List.foldl_cons]
          omega
      rw [List.foldl_cons] at h ⊢
      have hnext : value * 10 + digitValue c ≤ largestWhole := (hgrows rest _).trans h
      unfold gather
      rw [if_pos hnext, gather_eq rest _ h]

/-- The digits of a whole number that fits are read as it is. -/
theorem readUnsigned_toDigits {n : Nat} (h : n ≤ largestWhole) (negative : Bool) :
    readUnsigned negative (Nat.toDigits 10 n) =
      (if !negative then some (.integer n)
        else if n = 0 then some (.float (-Float.ofNat 0))
        else if n ≤ 0x8000000000000000 then some (.integer (-(n : Int)))
        else some (.float (-Float.ofNat n))).map fun number => (number, []) := by
  have hgather : gather 0 (Nat.toDigits 10 n) = (n, 0) := by
    rw [gather_eq _ _ (by rw [value_toDigits]; exact h), value_toDigits]
  have hparts : numberOfParts negative (Nat.toDigits 10 n) none none =
      if !negative then some (.integer n)
      else if n = 0 then some (.float (-Float.ofNat 0))
      else if n ≤ 0x8000000000000000 then some (.integer (-(n : Int)))
      else some (.float (-Float.ofNat n)) := by
    unfold numberOfParts
    rw [hgather]
    rfl
  unfold readUnsigned
  rw [readWhole_toDigits]
  change (numberOfParts negative (Nat.toDigits 10 n) none none).bind _ = _
  rw [hparts]
  exact Option.map_eq_bind.symm

end Json

/-- A number that a document can hold: a whole one of 64 bits, or a floating-point one that is read back from its
text. -/
def Number.IsStored : Number → Prop
  | .integer n => -0x8000000000000000 ≤ n ∧ n ≤ Json.largestWhole
  | .float x => Json.parse? (Number.float x).text = some (.number (.float x))

namespace Json

theorem readNumber_text {n : Number} (h : n.IsStored) : readNumber n.text.toList = some (n, []) := by
  have hdigit : ∀ m : Nat, ∀ rest, Nat.toDigits 10 m ≠ '-' :: rest := by
    intro m rest heq
    have hminus := Nat.isDigit_of_mem_toDigits (b := 10) (n := m) (by decide) (by decide) (heq ▸ List.mem_cons_self)
    cases hminus
  cases n with
  | float x => exact readNumber_of_parse? h
  | integer n =>
    cases n with
    | ofNat n =>
      have hle : n ≤ largestWhole := Int.ofNat_le.mp h.2
      have htext : (Number.integer (Int.ofNat n)).text.toList = Nat.toDigits 10 n := Nat.toList_repr
      rw [htext, readNumber_plain (hdigit n), readUnsigned_toDigits hle]
      rfl
    | negSucc n =>
      have hle : n + 1 ≤ 0x8000000000000000 := by
        have hlow := h.1
        omega
      have htext : (Number.integer (Int.negSucc n)).text.toList = '-' :: Nat.toDigits 10 (n + 1) := by
        have hminus : (Number.integer (Int.negSucc n)).text = "-" ++ (n + 1).repr := rfl
        rw [hminus, String.toList_append, Nat.toList_repr]
        rfl
      rw [htext, readNumber_minus, readUnsigned_toDigits (hle.trans (by decide))]
      simp only [Bool.not_true, Bool.false_eq_true, if_false, if_neg (Nat.succ_ne_zero n), if_pos hle]
      rfl

end Json

end ServiceGraph
