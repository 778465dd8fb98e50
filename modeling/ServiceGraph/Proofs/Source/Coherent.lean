import ServiceGraph.Proofs.Text.Bytes
import ServiceGraph.Source.Span

/-!
Places that agree with a text.

Offsets and columns count bytes, so a place is compared with the bytes of the text (`Text.bytes`): its line is
one more than the line feeds in front of it, and its column one more than the bytes between the last of
them and the place (`Span.Coherent`). A line feed is a byte of no other character, so bytes and characters
have the same lines (`Text.lineFeed_not_mem_bytes`).
-/

namespace ServiceGraph

namespace Text

/-! ## 1. Line feeds -/

/-- The byte that ends a line. -/
def lineFeed : UInt8 := 10

/-- How many bytes stand behind the last line feed. -/
def sinceLineFeed (b : List UInt8) : Nat := (b.reverse.takeWhile (· != lineFeed)).length

variable {s : List Char} {a b : List UInt8}

@[simp] theorem bytes_lineFeed : bytes ['\n'] = [lineFeed] := rfl

/-- The byte that ends a line belongs to no other character. -/
theorem lineFeed_not_mem_utf8EncodeChar {c : Char} (h : c ≠ '\n') :
    lineFeed ∉ String.utf8EncodeChar c := by
  intro hmem
  exact h ((eq_ascii_iff_of_mem (by decide) hmem).mp rfl)

theorem lineFeed_not_mem_bytes (h : '\n' ∉ s) : lineFeed ∉ bytes s := by
  intro hmem
  obtain ⟨c, hc, hmem⟩ := List.mem_flatMap.mp hmem
  exact lineFeed_not_mem_utf8EncodeChar (fun heq => h (heq ▸ hc)) hmem

/-! ## 2. Lines and columns -/

theorem count_of_no_lineFeed (h : lineFeed ∉ b) : (a ++ b).count lineFeed = a.count lineFeed := by
  rw [List.count_append, List.count_eq_zero_of_not_mem h, Nat.add_zero]

/-- What stands on the same line counts. -/
theorem sinceLineFeed_append (h : lineFeed ∉ b) :
    sinceLineFeed (a ++ b) = sinceLineFeed a + b.length := by
  have hall : ∀ x ∈ b.reverse, (x != lineFeed) = true := by
    intro x hx
    have hne : x ≠ lineFeed := fun heq => h (heq ▸ List.mem_reverse.mp hx)
    simpa using hne
  unfold sinceLineFeed
  rw [List.reverse_append, List.takeWhile_append_of_pos hall, List.length_append, List.length_reverse,
    Nat.add_comm]

/-- What stands in front of the line does not. -/
theorem sinceLineFeed_append_lineFeed (h : lineFeed ∉ b) :
    sinceLineFeed (a ++ [lineFeed] ++ b) = b.length := by
  rw [sinceLineFeed_append h]
  simp [sinceLineFeed]

end Text

/-! ## 3. Places -/

open Text

/-- A place that lies in a text, with the line and column at which it starts. -/
structure Span.Coherent (text : List UInt8) (s : Span) : Prop where
  ordered : s.start ≤ s.stop
  within : s.stop ≤ text.length
  line : s.line = 1 + (text.take s.start).count lineFeed
  column : s.column = 1 + sinceLineFeed (text.take s.start)

theorem Span.coherent_iff {text : List UInt8} {s : Span} : s.Coherent text ↔
    s.start ≤ s.stop ∧ s.stop ≤ text.length ∧ s.line = 1 + (text.take s.start).count lineFeed ∧
      s.column = 1 + sinceLineFeed (text.take s.start) :=
  ⟨fun h => ⟨h.ordered, h.within, h.line, h.column⟩,
    fun ⟨hordered, hwithin, hline, hcolumn⟩ => ⟨hordered, hwithin, hline, hcolumn⟩⟩

instance (text : List UInt8) (s : Span) : Decidable (s.Coherent text) :=
  decidable_of_iff _ Span.coherent_iff.symm

namespace Span.Coherent

variable {text : List UInt8}

theorem line_ne_zero {s : Span} (h : s.Coherent text) : s.line ≠ 0 := by
  rw [h.line]
  omega

theorem origin (text : List UInt8) : Span.origin.Coherent text :=
  ⟨Nat.le_refl _, Nat.zero_le _, by simp [Span.origin], by simp [Span.origin, sinceLineFeed]⟩

end Span.Coherent

end ServiceGraph
