import ServiceGraph.Proofs.Emission.Spelled
import ServiceGraph.Proofs.Json.Reading

/-!
The compact text of a value is read back.

A document holds values whose objects are sorted and whose numbers are read back from their texts
(`Json.IsStored`). Each of them is read from its compact text if it is not nested too deeply
(`Json.parse?_compact`). Whatever stands behind a value is left (`Json.reads`), so the texts of items and members
can be read one after the other.
-/

namespace ServiceGraph

open Text

namespace Json

/-! ## 1. Values -/

/-- What is asked of each part of a value that a document holds. -/
structure IsStored (v : Json) : Prop where
  sorted : ∀ members, v = .object members → Sorted members
  number : ∀ n, v = .number n → n.IsStored

mutual

/-- How deeply lists and objects are nested in a value. -/
def nesting : Json → Nat
  | .array items => nestingOfItems items + 1
  | .object members => nestingOfMembers members + 1
  | _ => 0

def nestingOfItems : List Json → Nat
  | [] => 0
  | x :: rest => max x.nesting (nestingOfItems rest)

def nestingOfMembers : List (String × Json) → Nat
  | [] => 0
  | (_, x) :: rest => max x.nesting (nestingOfMembers rest)

end

section

variable {depth fuel : Nat} {c : Char} {rest tail : List Char}

theorem skipBlanks_cons (h : isBlank c = false) (rest : List Char) : skipBlanks (c :: rest) = c :: rest :=
  List.dropWhile_cons_of_neg (by simp [h])

theorem readValue_quote (s : String) (tail : List Char) :
    readValue depth ((quote s).toList ++ tail) = some (.string s, tail) := by
  have htext : (quote s).toList ++ tail = '"' :: (quoteBody s.toList ++ '"' :: tail) := by simp [quote]
  rw [htext, readValue, skipBlanks_cons (by decide)]
  change (readString (quoteBody s.toList ++ '"' :: tail)).map (fun r => (string r.1, r.2)) = _
  rw [readString_quote, Option.map_some]

/-- What starts a number is read as one. -/
theorem readValue_number (h : isNumberPart c = true) :
    readValue depth (c :: rest) = (readNumber (c :: rest)).map fun r => (.number r.1, r.2) := by
  have hne : ∀ d, isNumberPart d = false → c ≠ d := by
    rintro d hd rfl
    rw [h] at hd
    cases hd
  rw [readValue, skipBlanks_cons (not_isBlank_of_isVisible (isVisible_of_isNumberPart h).1)]
  split
  case h_7 => rfl
  all_goals
    rename_i heq
    exact absurd (List.cons.inj heq).1 (hne _ (by decide))

/-- A list with items in it. -/
theorem readValue_bracket {s : List Char} (h : s = c :: rest) (hblank : isBlank c = false) (hne : c ≠ ']') :
    readValue (depth + 1) ('[' :: s) = (readItems depth s.length s).map fun r => (.array r.1, r.2) := by
  subst h
  rw [readValue, skipBlanks_cons (by decide)]
  split
  case h_2 =>
    rename_i hbracket
    obtain ⟨-, rfl⟩ := List.cons.inj hbracket
    dsimp only
    rw [skipBlanks_cons hblank]
    split
    · rename_i heq
      exact absurd (List.cons.inj heq).1 hne
    · rfl
  case h_7 =>
    rename_i hbracket _ _ _ _
    exact absurd rfl (hbracket _)
  all_goals
    rename_i heq
    exact absurd (List.cons.inj heq).1 (by decide)

/-- An object with members in it. -/
theorem readValue_brace {s : List Char} (h : s = '"' :: rest) : readValue (depth + 1) ('\x7b' :: s) =
    (readMembers depth s.length s).map fun r => (ofMembers r.1, r.2) := by
  subst h
  rw [readValue, skipBlanks_cons (by decide)]
  rfl

/-- The step to the next item, or to the end of the list. -/
theorem readItems_succ {x : Json} {s : List Char} (h : readValue depth s = some (x, c :: rest))
    (hblank : isBlank c = false) : readItems depth (fuel + 1) s =
      if c = ',' then (readItems depth fuel rest).map fun r => (x :: r.1, r.2)
      else if c = ']' then some ([x], rest) else none := by
  rw [readItems, h]
  dsimp only
  rw [skipBlanks_cons hblank]
  split
  · rename_i heq
    obtain ⟨rfl, rfl⟩ := List.cons.inj heq
    rfl
  · rename_i heq
    obtain ⟨rfl, rfl⟩ := List.cons.inj heq
    rfl
  · rename_i hcomma hbracket
    rw [if_neg fun heq => hcomma rest (by rw [heq]), if_neg fun heq => hbracket rest (by rw [heq])]

/-- The step to the next member, or to the end of the object. -/
theorem readMembers_succ {key : String} {x : Json} {s : List Char} (h : readValue depth s = some (x, c :: rest))
    (hblank : isBlank c = false) : readMembers depth (fuel + 1) ((quote key).toList ++ ':' :: s) =
      if c = ',' then (readMembers depth fuel rest).map fun r => ((key, x) :: r.1, r.2)
      else if c = '\x7d' then some ([(key, x)], rest) else none := by
  have htext : (quote key).toList ++ ':' :: s = '"' :: (quoteBody key.toList ++ '"' :: ':' :: s) := by simp [quote]
  rw [htext, readMembers, skipBlanks_cons (by decide)]
  split
  · rename_i hkey
    obtain ⟨-, rfl⟩ := List.cons.inj hkey
    rw [readString_quote]
    dsimp only
    rw [skipBlanks_cons (by decide)]
    split
    · rename_i hcolon
      obtain ⟨-, rfl⟩ := List.cons.inj hcolon
      rw [h]
      dsimp only
      rw [skipBlanks_cons hblank]
      split
      · rename_i heq
        obtain ⟨rfl, rfl⟩ := List.cons.inj heq
        rfl
      · rename_i heq
        obtain ⟨rfl, rfl⟩ := List.cons.inj heq
        rfl
      · rename_i hcomma hbrace
        rw [if_neg fun heq => hcomma rest (by rw [heq]), if_neg fun heq => hbrace rest (by rw [heq])]
    · rename_i hcolon
      exact absurd rfl (hcolon _)
  · rename_i hkey
    exact absurd rfl (hkey _)

/-! ## 2. Lists of values -/

/-- A value that is read from its text, whatever stands behind it. -/
def Reads (depth : Nat) (d : Json) : Prop :=
  ∀ tail, Stops tail → readValue depth (d.compact.toList ++ tail) = some (d, tail)

theorem toList_intercalate_cons (p q : String) (parts : List String) :
    (",".intercalate (p :: q :: parts)).toList = p.toList ++ ',' :: (",".intercalate (q :: parts)).toList := by
  rw [String.toList_intercalate, String.toList_intercalate, List.map_cons, List.map_cons,
    List.intercalate_cons_cons, List.append_assoc]
  rfl

theorem toList_intercalate_singleton (p : String) : (",".intercalate [p]).toList = p.toList := by
  rw [String.toList_intercalate, List.map_singleton, List.intercalate_singleton]

/-- Parts put together begin like the first of them. -/
theorem head_intercalate {p : String} (h : p.toList = c :: rest) (parts : List String) :
    ∃ left, (",".intercalate (p :: parts)).toList = c :: left := by
  cases parts with
  | nil => exact ⟨rest, by rw [toList_intercalate_singleton, h]⟩
  | cons q parts => exact ⟨_, by rw [toList_intercalate_cons, h, List.cons_append]⟩

/-- There are commas enough to count the parts by, but for the last one. -/
theorem length_le_intercalate (c : Char) (tail : List Char) : ∀ parts : List String,
    parts.length ≤ ((",".intercalate parts).toList ++ c :: tail).length
  | [] => Nat.zero_le _
  | [p] => by
      simp only [List.length_append, List.length_cons, List.length_nil]
      omega
  | p :: q :: parts => by
      have hrest := length_le_intercalate c tail (q :: parts)
      simp only [toList_intercalate_cons, List.length_append, List.length_cons] at hrest ⊢
      omega

theorem length_compactItems : ∀ items : List Json, (compactItems items).length = items.length
  | [] => rfl
  | _ :: rest => congrArg (· + 1) (length_compactItems rest)

theorem length_compactMembers : ∀ members : List (String × Json), (compactMembers members).length = members.length
  | [] => rfl
  | _ :: rest => congrArg (· + 1) (length_compactMembers rest)

/-- Items that are read one by one are read as a list. -/
theorem readItems_compact : ∀ {items : List Json} {fuel : Nat}, (∀ x ∈ items, Reads depth x) → items ≠ [] →
    items.length ≤ fuel →
      readItems depth fuel ((",".intercalate (compactItems items)).toList ++ ']' :: tail) = some (items, tail)
  -- The last item has its bracket behind it, and every other one a comma.
  | [x], fuel + 1, h, _, _ => by
      have hx := h x List.mem_cons_self (']' :: tail) (stops_cons (by decide) tail)
      rw [compactItems, compactItems, toList_intercalate_singleton, readItems_succ hx (by decide),
        if_neg (by decide), if_pos rfl]
  | x :: y :: rest, fuel + 1, h, _, hfuel => by
      have htail : ∀ t : List Char, Stops (',' :: t) := stops_cons (by decide)
      have hx := h x List.mem_cons_self (',' :: ((",".intercalate (compactItems (y :: rest))).toList ++ ']' :: tail))
        (htail _)
      have hrest : readItems depth fuel ((",".intercalate (compactItems (y :: rest))).toList ++ ']' :: tail) =
          some (y :: rest, tail) :=
        readItems_compact (fun z hz => h z (List.mem_cons_of_mem _ hz)) (List.cons_ne_nil _ _)
          (Nat.le_of_succ_le_succ hfuel)
      rw [compactItems, compactItems, toList_intercalate_cons, List.append_assoc, List.cons_append, ← compactItems,
        readItems_succ hx (by decide), if_pos rfl, hrest]
      rfl

/-- Members whose values are read one by one are read as an object's. -/
theorem readMembers_compact : ∀ {members : List (String × Json)} {fuel : Nat},
    (∀ m ∈ members, Reads depth m.2) → members ≠ [] → members.length ≤ fuel →
      readMembers depth fuel ((",".intercalate (compactMembers members)).toList ++ '\x7d' :: tail) =
        some (members, tail)
  | [(key, x)], fuel + 1, h, _, _ => by
      have hx := h _ List.mem_cons_self ('\x7d' :: tail) (stops_cons (by decide) tail)
      rw [compactMembers, compactMembers, toList_intercalate_singleton, String.toList_append, String.toList_append,
        List.append_assoc, List.append_assoc]
      change readMembers depth (fuel + 1) ((quote key).toList ++ ':' :: (x.compact.toList ++ '\x7d' :: tail)) = _
      rw [readMembers_succ hx (by decide), if_neg (by decide), if_pos rfl]
  | (key, x) :: next :: rest, fuel + 1, h, _, hfuel => by
      have htail : ∀ t : List Char, Stops (',' :: t) := stops_cons (by decide)
      have hx := h _ List.mem_cons_self
        (',' :: ((",".intercalate (compactMembers (next :: rest))).toList ++ '\x7d' :: tail)) (htail _)
      have hrest : readMembers depth fuel
          ((",".intercalate (compactMembers (next :: rest))).toList ++ '\x7d' :: tail) = some (next :: rest, tail) :=
        readMembers_compact (fun m hm => h m (List.mem_cons_of_mem _ hm)) (List.cons_ne_nil _ _)
          (Nat.le_of_succ_le_succ hfuel)
      have htext : (",".intercalate (compactMembers ((key, x) :: next :: rest))).toList ++ '\x7d' :: tail =
          (quote key).toList ++ ':' :: (x.compact.toList ++
            ',' :: ((",".intercalate (compactMembers (next :: rest))).toList ++ '\x7d' :: tail)) := by
        rw [compactMembers, compactMembers, toList_intercalate_cons, ← compactMembers, String.toList_append,
          String.toList_append]
        simp
      rw [htext, readMembers_succ hx (by decide), if_pos rfl, hrest]
      rfl

/-- A number that can be held is written in the characters of numbers. -/
theorem numberParts_text {n : Number} (h : n.IsStored) :
    n.text.toList ≠ [] ∧ n.text.toList.all isNumberPart = true := by
  obtain ⟨text, heq, htext⟩ := readNumber_eq_some (readNumber_text h)
  rw [heq, List.append_nil]
  exact numberParts_of_isSignedNumeral htext

/-- How the text of a value begins. -/
theorem head_compact {d : Json} (h : d.IsStored) :
    ∃ c rest, d.compact.toList = c :: rest ∧ isBlank c = false ∧ c ≠ ']' := by
  cases d with
  | null => exact ⟨'n', _, rfl, by decide, by decide⟩
  | bool b =>
    cases b
    · exact ⟨'f', _, rfl, by decide, by decide⟩
    · exact ⟨'t', _, rfl, by decide, by decide⟩
  | number n =>
    obtain ⟨hne, hparts⟩ := numberParts_text (h.number n rfl)
    obtain ⟨c, rest, heq⟩ := List.exists_cons_of_ne_nil hne
    rw [heq, List.all_cons, Bool.and_eq_true] at hparts
    refine ⟨c, rest, heq, not_isBlank_of_isVisible (isVisible_of_isNumberPart hparts.1).1, ?_⟩
    rintro rfl
    exact absurd hparts.1 (by decide)
  | string s => exact ⟨'"', _, by rw [compact, quote, String.toList_ofList, List.cons_append], by decide, by decide⟩
  | array items =>
    exact ⟨'[', _, by rw [compact, String.toList_append, String.toList_append]; rfl, by decide, by decide⟩
  | object members =>
    exact ⟨'\x7b', _, by rw [compact, String.toList_append, String.toList_append]; rfl, by decide, by decide⟩

/-! ## 3. Whole values -/

theorem reads_null : Reads depth .null := by
  intro tail _
  change readValue depth ('n' :: ("ull".toList ++ tail)) = _
  rw [readValue, skipBlanks_cons (by decide)]
  rfl

theorem reads_bool (b : Bool) : Reads depth (.bool b) := by
  intro tail _
  cases b with
  | false =>
    change readValue depth ('f' :: ("alse".toList ++ tail)) = _
    rw [readValue, skipBlanks_cons (by decide)]
    rfl
  | true =>
    change readValue depth ('t' :: ("rue".toList ++ tail)) = _
    rw [readValue, skipBlanks_cons (by decide)]
    rfl

theorem reads_number {n : Number} (h : n.IsStored) : Reads depth (.number n) := by
  intro tail hstops
  obtain ⟨hne, hparts⟩ := numberParts_text h
  have hread := leaves_readNumber hstops n.text.toList
  obtain ⟨c, rest, heq⟩ := List.exists_cons_of_ne_nil hne
  unfold Leaves at hread
  rw [readNumber_text h, heq] at hread
  rw [heq, List.all_cons, Bool.and_eq_true] at hparts
  rw [compact, heq, List.cons_append, readValue_number hparts.1, ← List.cons_append, hread]
  rfl

theorem reads_array {items : List Json} (h : ∀ x ∈ items, Reads depth x) (hstored : ∀ x ∈ items, x.IsStored) :
    Reads (depth + 1) (.array items) := by
  intro tail _
  have htext : (compact (.array items)).toList ++ tail =
      '[' :: ((",".intercalate (compactItems items)).toList ++ ']' :: tail) := by simp [compact]
  have hfuel := length_le_intercalate ']' tail (compactItems items)
  rw [length_compactItems] at hfuel
  rw [htext]
  cases items with
  | nil =>
    rw [readValue, skipBlanks_cons (by decide)]
    rfl
  | cons x rest =>
    obtain ⟨c, behind, heq, hblank, hne⟩ := head_compact (hstored x List.mem_cons_self)
    obtain ⟨left, hleft⟩ := head_intercalate heq (compactItems rest)
    have hhead : (",".intercalate (compactItems (x :: rest))).toList ++ ']' :: tail = c :: (left ++ ']' :: tail) :=
      congrArg (· ++ ']' :: tail) hleft
    rw [readValue_bracket hhead hblank hne, readItems_compact h (List.cons_ne_nil _ _) hfuel]
    rfl

theorem reads_object {members : List (String × Json)} (h : ∀ m ∈ members, Reads depth m.2)
    (hsorted : Sorted members) : Reads (depth + 1) (.object members) := by
  intro tail _
  have htext : (compact (.object members)).toList ++ tail =
      '\x7b' :: ((",".intercalate (compactMembers members)).toList ++ '\x7d' :: tail) := by simp [compact]
  have hsame : ofMembers members = .object members := congrArg object (@insertAll_of_sorted members [] hsorted)
  have hfuel := length_le_intercalate '\x7d' tail (compactMembers members)
  rw [length_compactMembers] at hfuel
  rw [htext]
  cases members with
  | nil =>
    rw [readValue, skipBlanks_cons (by decide)]
    rfl
  | cons m rest =>
    obtain ⟨key, x⟩ := m
    have hkey : (quote key ++ ":" ++ x.compact).toList =
        '"' :: (quoteBody key.toList ++ '"' :: ':' :: x.compact.toList) := by simp [quote]
    obtain ⟨left, hleft⟩ := head_intercalate hkey (compactMembers rest)
    have hhead : (",".intercalate (compactMembers ((key, x) :: rest))).toList ++ '\x7d' :: tail =
        '"' :: (left ++ '\x7d' :: tail) := congrArg (· ++ '\x7d' :: tail) hleft
    rw [readValue_brace hhead, readMembers_compact h (List.cons_ne_nil _ _) hfuel, ← hsame]
    rfl

end

-- The induction is on the value; every list and every object takes one of the depth that is left.
mutual

/-- **A value is read from its compact text**, whatever stands behind it, if it is not nested too deeply. -/
theorem reads : ∀ (d : Json) {depth : Nat}, d.nesting ≤ depth → d.Everywhere IsStored → Reads depth d
  | .null, _, _, _ => reads_null
  | .bool b, _, _, _ => reads_bool b
  | .number n, _, _, h => reads_number ((h _ .self).number n rfl)
  | .string s, _, _, _ => fun tail _ => readValue_quote s tail
  | .array items, _ + 1, hdepth, h =>
      reads_array (reads_of_mem_items items (Nat.le_of_succ_le_succ hdepth) fun _ hx p hp => h p (.item hx hp))
        fun _ hx => h _ (.item hx .self)
  | .object members, _ + 1, hdepth, h =>
      reads_object (reads_of_mem_members members (Nat.le_of_succ_le_succ hdepth) fun _ hm p hp => h p (.member hm hp))
        ((h _ .self).sorted members rfl)

theorem reads_of_mem_items : ∀ (items : List Json) {depth : Nat}, nestingOfItems items ≤ depth →
    (∀ x ∈ items, x.Everywhere IsStored) → ∀ x ∈ items, Reads depth x
  | [], _, _, _ => by simp
  | y :: rest, _, hdepth, h => List.forall_mem_cons.mpr
      ⟨reads y ((Nat.le_max_left _ _).trans hdepth) (h y List.mem_cons_self),
        reads_of_mem_items rest ((Nat.le_max_right _ _).trans hdepth) fun x hx => h x (List.mem_cons_of_mem _ hx)⟩

theorem reads_of_mem_members : ∀ (members : List (String × Json)) {depth : Nat}, nestingOfMembers members ≤ depth →
    (∀ m ∈ members, m.2.Everywhere IsStored) → ∀ m ∈ members, Reads depth m.2
  | [], _, _, _ => by simp
  | (k, y) :: rest, _, hdepth, h => List.forall_mem_cons.mpr
      ⟨reads y ((Nat.le_max_left _ _).trans hdepth) (h (k, y) List.mem_cons_self),
        reads_of_mem_members rest ((Nat.le_max_right _ _).trans hdepth) fun m hm => h m (List.mem_cons_of_mem _ hm)⟩

end

/-- **A value that a document can hold is read back from its compact text.** -/
theorem parse?_compact {d : Json} (hnesting : d.nesting ≤ nestingLimit) (h : d.Everywhere IsStored) :
    parse? d.compact = some d := by
  have hread := reads d hnesting h [] (by simp [Stops])
  rw [List.append_nil] at hread
  rw [parse?, parseWithin?, hread]
  rfl

end Json

end ServiceGraph
