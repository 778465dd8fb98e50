import ServiceGraph.Proofs.Syntax.Scanning

/-!
What the basic readers do in front of known tokens.

A cursor is taken apart into its four parts, so that a reader that has been unfolded runs by rewriting. `Takes`
is what is proved of a reader: it takes given tokens off the front, whatever it has read before, reports
nothing and gives a result with a property. `Spelled` says of tokens what they look like.
-/

namespace ServiceGraph.Syntax

open Token

namespace Reader

variable {α β : Type}

/-! ## 1. Running a reader -/

@[simp] theorem bind_apply (x : Reader α) (f : α → Reader β) (c : Cursor) :
    (x >>= f) c = (x c).bind fun p => f p.1 p.2 := rfl

@[simp] theorem pure_apply (a : α) (c : Cursor) : (pure a : Reader α) c = some (a, c) := rfl

@[simp] theorem map_apply (f : α → β) (x : Reader α) (c : Cursor) :
    (f <$> x) c = (x c).map fun p => (f p.1, p.2) := by
  change (x c).bind (fun p => some (f p.1, p.2)) = _
  rw [Option.map_eq_bind]
  rfl

@[simp] theorem fail_apply (c : Cursor) : (fail : Reader α) c = none := rfl

@[simp] theorem stop_apply (c : Cursor) : stop c = some (c.last.offset, c) := rfl

@[simp] theorem slice_apply (start stop : Nat) (c : Cursor) :
    slice start stop c = some (String.ofList (sliceFrom start stop 0 c.source), c) := rfl

theorem attempt_of_some {r : Reader α} {c c' : Cursor} {a : α} (h : r c = some (a, c')) :
    attempt r c = some (some a, c') := by
  rw [attempt, h]

theorem afterComments_cons {t : Token} (h : t.isComment = false) (ts : List Token) :
    afterComments (t :: ts) = t :: ts := by
  simp [afterComments, h]

section Front

variable {source : List Char} {t : Token} {ts : List Token} {last : Mark} {errors : List SyntaxError}

theorem ahead_cons (h : t.isComment = false) :
    ahead ⟨source, t :: ts, last, errors⟩ = some (t :: ts, ⟨source, t :: ts, last, errors⟩) := by
  simp [ahead, afterComments_cons h]

theorem peek?_cons (h : t.isComment = false) :
    peek? ⟨source, t :: ts, last, errors⟩ = some (some t, ⟨source, t :: ts, last, errors⟩) := by
  simp [peek?, afterComments_cons h]

theorem peekText_cons (h : t.isComment = false) :
    peekText ⟨source, t :: ts, last, errors⟩ = some (t.text, ⟨source, t :: ts, last, errors⟩) := by
  simp [peekText, afterComments_cons h]

theorem next_cons (h : t.isComment = false) :
    next ⟨source, t :: ts, last, errors⟩ = some (t, ⟨source, ts, t.stop, errors⟩) := by
  simp [next, afterComments_cons h]

theorem accept_cons {text : String} (h : t.isComment = false) (htext : t.text = text) :
    accept text ⟨source, t :: ts, last, errors⟩ = some (true, ⟨source, ts, t.stop, errors⟩) := by
  simp [accept, afterComments_cons h, htext]

theorem accept_cons_of_ne {text : String} (h : t.isComment = false) (htext : t.text ≠ text) :
    accept text ⟨source, t :: ts, last, errors⟩ =
      some (false, ⟨source, t :: ts, last, errors⟩) := by
  simp [accept, afterComments_cons h, htext]

theorem expect_cons {text : String} (h : t.isComment = false) (htext : t.text = text) :
    expect text ⟨source, t :: ts, last, errors⟩ = some ((), ⟨source, ts, t.stop, errors⟩) := by
  simp [expect, accept_cons h htext]

theorem expectKind_cons {kind : TokenKind} (h : t.isComment = false) (hkind : t.kind = kind) :
    expectKind kind ⟨source, t :: ts, last, errors⟩ = some (t, ⟨source, ts, t.stop, errors⟩) := by
  simp [expectKind, next_cons h, hkind]

theorem closeWith_cons {text : String} (h : t.isComment = false) (htext : t.text = text) :
    closeWith text ⟨source, t :: ts, last, errors⟩ = some ((), ⟨source, ts, t.stop, errors⟩) := by
  simp [closeWith, afterComments_cons h, expect_cons h htext]

theorem endStatement_cons (ending : Ending) (h : t.isComment = false) (htext : t.text = ";") :
    endStatement ending ⟨source, t :: ts, last, errors⟩ =
      some ((), ⟨source, ts, t.stop, errors⟩) := by
  simp [endStatement, afterComments_cons h, htext]

theorem skipAngles_cons (h : t.isComment = false) (htext : t.text ≠ "<") :
    skipAngles ⟨source, t :: ts, last, errors⟩ = some ((), ⟨source, t :: ts, last, errors⟩) := by
  simp [skipAngles, accept_cons_of_ne h htext]

theorem endsHere_apply (ending : Option Ending) (c : Cursor) :
    ∃ b, endsHere ending c = some (b, c) := ⟨_, rfl⟩

end Front

/-! ## 2. Tokens in front -/

/-- Tokens of the given looks, which stand in the source. -/
structure Spelled (source : List Char) (ts : List Token) (found : List Signature) : Prop where
  signatures : ts.map signature = found
  standing : ∀ t ∈ ts, t.StandsIn source

namespace Spelled

variable {source : List Char} {ts : List Token} {found found' : List Signature}

theorem split (h : Spelled source ts (found ++ found')) :
    ∃ ts₁ ts₂, ts = ts₁ ++ ts₂ ∧ Spelled source ts₁ found ∧ Spelled source ts₂ found' := by
  obtain ⟨ts₁, ts₂, rfl, h₁, h₂⟩ := List.map_eq_append_iff.mp h.signatures
  exact ⟨ts₁, ts₂, rfl, ⟨h₁, fun t ht => h.standing t (List.mem_append_left _ ht)⟩,
    ⟨h₂, fun t ht => h.standing t (List.mem_append_right _ ht)⟩⟩

theorem next {s : Signature} (h : Spelled source ts (s :: found)) :
    ∃ t ts', ts = t :: ts' ∧ t.kind = s.1 ∧ t.text = s.2 ∧ t.StandsIn source ∧
      Spelled source ts' found := by
  obtain ⟨t, ts', rfl, rfl, hts⟩ := List.map_eq_cons_iff.mp h.signatures
  exact ⟨t, ts', rfl, rfl, rfl, h.standing t List.mem_cons_self,
    ⟨hts, fun u hu => h.standing u (List.mem_cons_of_mem _ hu)⟩⟩

theorem uncons {kind : TokenKind} {text : String} (h : Spelled source ts ((kind, text) :: found)) :
    ∃ t ts', ts = t :: ts' ∧ t.kind = kind ∧ t.text = text ∧ t.StandsIn source ∧
      Spelled source ts' found :=
  h.next

theorem eq_nil (h : Spelled source ts []) : ts = [] := List.map_eq_nil_iff.mp h.signatures

end Spelled

theorem isComment_of_kind {t : Token} {kind : TokenKind} (h : t.kind = kind)
    (hkind : kind ≠ .comment) : t.isComment = false := by
  rw [isComment, h]
  exact beq_false_of_ne hkind

/-- A name is no punctuation. -/
theorem name_ne {t : Token} (h : t.kind = .name) {text : String}
    (htext : isName text.toList = false) : t.text ≠ text := by
  rintro rfl
  rw [t.fits.name h] at htext
  cases htext

/-- A reader takes the tokens `ts` in front of `rest`, and what it gives satisfies `P`. -/
def Takes (r : Reader α) (source : List Char) (ts rest : List Token) (P : α → Prop) : Prop :=
  ∀ last errors, ∃ a last', r ⟨source, ts ++ rest, last, errors⟩ =
    some (a, ⟨source, rest, last', errors⟩) ∧ P a

end Reader

end ServiceGraph.Syntax
