import ServiceGraph.Text.Lines

/-!
The bytes of a text.

A byte of ASCII belongs to one character only, and to no longer one (`Text.eq_ascii_iff_of_mem`), so what is decided by
such bytes is decided by characters. The first and the last byte of a text belong to its first and its last
character.
-/

namespace ServiceGraph.Text

/-- The bytes of a text in UTF-8. -/
def bytes (s : List Char) : List UInt8 := s.flatMap String.utf8EncodeChar

variable {s t : List Char} {c : Char} {b : UInt8}

/-! ## 1. Bytes and lengths -/

@[simp] theorem bytes_nil : bytes [] = [] := rfl

@[simp] theorem bytes_append (s t : List Char) : bytes (s ++ t) = bytes s ++ bytes t :=
  List.flatMap_append

theorem bytes_cons (c : Char) (s : List Char) : bytes (c :: s) = String.utf8EncodeChar c ++ bytes s := rfl

theorem byteLength_cons (c : Char) (s : List Char) : byteLength (c :: s) = c.utf8Size + byteLength s := rfl

@[simp] theorem byteLength_append (s t : List Char) :
    byteLength (s ++ t) = byteLength s + byteLength t := by
  induction s with
  | nil => simp [byteLength]
  | cons c s ih =>
    change c.utf8Size + byteLength (s ++ t) = c.utf8Size + byteLength s + byteLength t
    omega

@[simp] theorem length_bytes (s : List Char) : (bytes s).length = byteLength s := by
  induction s with
  | nil => rfl
  | cons c s ih =>
    rw [bytes_cons, List.length_append, String.length_utf8EncodeChar, ih]
    rfl

theorem byteLength_eq_zero_iff : byteLength s = 0 ↔ s = [] := by
  cases s with
  | nil => simp [byteLength]
  | cons c s =>
    have hpos := c.utf8Size_pos
    rw [byteLength_cons]
    constructor
    · intro h
      omega
    · intro h
      cases h

theorem byteLength_le_of_prefix (h : s <+: t) : byteLength s ≤ byteLength t := by
  obtain ⟨rest, rfl⟩ := h
  rw [byteLength_append]
  exact Nat.le_add_right _ _

/-! ## 2. Bytes of ASCII -/

theorem utf8Size_eq_one_iff : c.utf8Size = 1 ↔ c.toNat < 128 :=
  Char.utf8Size_eq_one_iff.trans (UInt32.le_iff_toNat_le.trans Nat.lt_succ_iff.symm)

/-- A character is one byte of ASCII, or all its bytes are beyond ASCII. -/
theorem utf8EncodeChar_cases (c : Char) :
    c.toNat < 128 ∧ String.utf8EncodeChar c = [UInt8.ofNat c.toNat] ∨
      128 ≤ c.toNat ∧ ∀ b ∈ String.utf8EncodeChar c, 128 ≤ b.toNat := by
  have hbyte : ∀ n : Nat, 128 ≤ n % 256 → 128 ≤ (UInt8.ofNat n).toNat := by
    intro n hn
    rwa [UInt8.toNat_ofNat']
  have hval : c.val.toNat = c.toNat := rfl
  unfold String.utf8EncodeChar
  simp only [hval]
  split
  · exact .inl ⟨by omega, rfl⟩
  · refine .inr ⟨by omega, ?_⟩
    split
    · simp only [List.forall_mem_cons]
      exact ⟨hbyte _ (by omega), hbyte _ (by omega), by simp⟩
    · split
      · simp only [List.forall_mem_cons]
        exact ⟨hbyte _ (by omega), hbyte _ (by omega), hbyte _ (by omega), by simp⟩
      · simp only [List.forall_mem_cons]
        exact ⟨hbyte _ (by omega), hbyte _ (by omega), hbyte _ (by omega), hbyte _ (by omega), by simp⟩

/-- A byte of ASCII belongs to no other character. -/
theorem eq_ascii_iff_of_mem {a : Char} (ha : a.toNat < 128) (h : b ∈ String.utf8EncodeChar c) :
    b = UInt8.ofNat a.toNat ↔ c = a := by
  have hbyte : ∀ n < 128, (UInt8.ofNat n).toNat = n := by
    intro n hn
    rw [UInt8.toNat_ofNat']
    exact Nat.mod_eq_of_lt (by omega)
  rcases utf8EncodeChar_cases c with ⟨hc, hbytes⟩ | ⟨hc, hbytes⟩
  · rw [hbytes, List.mem_singleton] at h
    rw [h, ← UInt8.toNat_inj, hbyte _ hc, hbyte _ ha, Char.toNat_inj]
  · have hb := hbytes b h
    constructor
    · rintro rfl
      rw [hbyte _ ha] at hb
      omega
    · rintro rfl
      omega

/-! ## 3. Bytes at the ends -/

theorem utf8EncodeChar_ne_nil (c : Char) : String.utf8EncodeChar c ≠ [] := by
  intro hnil
  have hlength := String.length_utf8EncodeChar c
  rw [hnil] at hlength
  exact absurd hlength.symm (Nat.ne_of_gt c.utf8Size_pos)

theorem getLast?_bytes_concat (s : List Char) (c : Char) :
    (bytes (s.concat c)).getLast? = some ((String.utf8EncodeChar c).getLast (utf8EncodeChar_ne_nil c)) := by
  have hsplit : bytes (s.concat c) = bytes s ++ String.utf8EncodeChar c := by
    rw [List.concat_eq_append, bytes_append, bytes_cons, bytes_nil, List.append_nil]
  rw [hsplit, List.getLast?_append, List.getLast?_eq_some_getLast (utf8EncodeChar_ne_nil c)]
  rfl

/-- The last byte of a text belongs to its last character. -/
theorem exists_of_getLast?_bytes (h : b ∈ (bytes s).getLast?) : ∃ c ∈ s.getLast?, b ∈ String.utf8EncodeChar c := by
  rcases List.eq_nil_or_concat s with rfl | ⟨init, c, rfl⟩
  · cases h
  · rw [getLast?_bytes_concat] at h
    cases h
    exact ⟨c, by simp, List.getLast_mem _⟩

/-- The first byte of a text belongs to its first character. -/
theorem exists_of_head?_bytes (h : b ∈ (bytes s).head?) : ∃ c ∈ s.head?, b ∈ String.utf8EncodeChar c := by
  cases s with
  | nil => cases h
  | cons c s =>
    refine ⟨c, rfl, ?_⟩
    rw [bytes_cons, List.head?_append, List.head?_eq_some_head (utf8EncodeChar_ne_nil c)] at h
    cases h
    exact List.head_mem _

end ServiceGraph.Text
