import ServiceGraph.Proofs.Text.Bytes

/-!
Byte offsets in a text.

An offset counts bytes of UTF-8, and only the offsets between two characters are places at which a text can be
cut: `takeBytes?` gives what stands in front of such an offset, and nothing inside a character
(`takeBytes?_eq_some_iff`), and `sliceBytes?` gives what stands between two of them. `lastOffset?` is the offset
of the last character of a sort.
-/

namespace ServiceGraph.Text

variable {s t : List Char} {c : Char} {p : Char → Bool}

/-! ## 1. Cutting at an offset -/

/-- What stands in front of a byte offset; none if the offset is inside a character or behind the end. -/
def takeBytes? (offset : Nat) (s : List Char) : Option (List Char) :=
  if offset = 0 then some []
  else
    match s with
    | [] => none
    | c :: rest =>
      if offset < c.utf8Size then none else (takeBytes? (offset - c.utf8Size) rest).map (c :: ·)

theorem takeBytes?_zero (s : List Char) : takeBytes? 0 s = some [] := by
  cases s <;> rfl

/-- Whole characters in front of an offset stay. -/
theorem takeBytes?_append_add (offset : Nat) (t : List Char) :
    ∀ s : List Char, takeBytes? (byteLength s + offset) (s ++ t) = (takeBytes? offset t).map (s ++ ·)
  | [] => by
      have hempty : byteLength [] + offset = offset := by simp [byteLength]
      rw [hempty, List.nil_append]
      cases takeBytes? offset t <;> rfl
  | c :: s => by
      have hpos := c.utf8Size_pos
      have hrest : c.utf8Size + byteLength s + offset - c.utf8Size = byteLength s + offset := by omega
      rw [byteLength_cons, List.cons_append, takeBytes?, if_neg (by omega), if_neg (by omega), hrest,
        takeBytes?_append_add offset t s, Option.map_map]
      rfl

/-- A text is cut behind any of its characters. -/
theorem takeBytes?_append (s t : List Char) : takeBytes? (byteLength s) (s ++ t) = some s := by
  have h := takeBytes?_append_add 0 t s
  rwa [takeBytes?_zero, Option.map_some, List.append_nil, Nat.add_zero] at h

/-- There is no cut inside a character. -/
theorem takeBytes?_inside {offset : Nat} (hpos : 0 < offset) (hinside : offset < c.utf8Size) (s t : List Char) :
    takeBytes? (byteLength s + offset) (s ++ c :: t) = none := by
  rw [takeBytes?_append_add, takeBytes?, if_neg (by omega)]
  simp only [if_pos hinside, Option.map_none]

/-- Cutting gives exactly the beginnings of a text, each at its length. -/
theorem takeBytes?_eq_some_iff {offset : Nat} :
    takeBytes? offset s = some t ↔ t <+: s ∧ byteLength t = offset := by
  constructor
  · intro h
    induction s generalizing offset t with
    | nil =>
      rw [takeBytes?] at h
      split at h
      · cases h
        exact ⟨List.nil_prefix, by simp_all [byteLength]⟩
      · cases h
    | cons c s ih =>
      rw [takeBytes?] at h
      split at h
      · cases h
        exact ⟨List.nil_prefix, by simp_all [byteLength]⟩
      · split at h
        · cases h
        · obtain ⟨front, hfront, rfl⟩ := Option.map_eq_some_iff.mp h
          obtain ⟨hbegins, hlength⟩ := ih hfront
          refine ⟨(List.prefix_cons_inj c).mpr hbegins, ?_⟩
          rw [byteLength_cons]
          omega
  · rintro ⟨⟨rest, rfl⟩, rfl⟩
    exact takeBytes?_append t rest

/-- What stands between two byte offsets; none if one of them is inside a character. -/
def sliceBytes? (start stop : Nat) (s : List Char) : Option (List Char) :=
  (takeBytes? stop s).bind fun front => (takeBytes? start front).map fun lead => front.drop lead.length

theorem sliceBytes?_append (lead word rest : List Char) :
    sliceBytes? (byteLength lead) (byteLength (lead ++ word)) (lead ++ word ++ rest) = some word := by
  rw [sliceBytes?, takeBytes?_append, Option.bind_some, takeBytes?_append, Option.map_some, List.drop_left]

/-! ## 2. The last character of a sort -/

/-- The offset of the last character that satisfies a test. -/
def lastOffset? (p : Char → Bool) : List Char → Option Nat
  | [] => none
  | c :: rest =>
    match lastOffset? p rest with
    | some offset => some (c.utf8Size + offset)
    | none => if p c then some 0 else none

theorem lastOffset?_of_none (h : ∀ c ∈ s, p c = false) : lastOffset? p s = none := by
  induction s with
  | nil => rfl
  | cons c s ih =>
    rw [lastOffset?, ih fun d hd => h d (List.mem_cons_of_mem _ hd)]
    simp [h c List.mem_cons_self]

theorem lastOffset?_append (hc : p c = true) (ht : ∀ d ∈ t, p d = false) :
    ∀ s : List Char, lastOffset? p (s ++ c :: t) = some (byteLength s)
  | [] => by
      rw [List.nil_append, lastOffset?, lastOffset?_of_none ht]
      simp [hc, byteLength]
  | d :: s => by
      rw [List.cons_append, lastOffset?, lastOffset?_append hc ht s, byteLength_cons]

end ServiceGraph.Text
