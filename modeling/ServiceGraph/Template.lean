import ServiceGraph.Naming

/-!
Placeholders of templates: a name between double braces, with white space allowed around it. A template
is searched from the left, and what a placeholder takes is not searched again.
-/

namespace ServiceGraph.Template

/-- A letter, an underscore or a dollar sign. -/
def isNameStart (c : Char) : Bool := c.isAlpha || c = '_' || c = '$'

def isNamePart (c : Char) : Bool := isNameStart c || c.isDigit

/-- The placeholder at the front of a text, and what follows it. -/
def placeholder? (s : List Char) : Option (List Char × List Char) :=
  match s with
  | '\x7b' :: '\x7b' :: rest =>
    let body := rest.dropWhile Text.isWhiteSpace
    let name := body.takeWhile isNamePart
    match name, (body.dropWhile isNamePart).dropWhile Text.isWhiteSpace with
    | first :: others, '\x7d' :: '\x7d' :: behind =>
      if isNameStart first then some (first :: others, behind) else none
    | _, _ => none
  | _ => none

theorem placeholder?_shorter {s name rest : List Char} (h : placeholder? s = some (name, rest)) :
    rest.length < s.length := by
  unfold placeholder? at h
  split at h
  · rename_i tail
    dsimp only at h
    split at h
    · rename_i first others behind _ hend
      split at h
      · have h₁ := (List.dropWhile_suffix Text.isWhiteSpace (l := tail)).length_le
        have h₂ := (List.dropWhile_suffix isNamePart (l := tail.dropWhile Text.isWhiteSpace)).length_le
        have h₃ := (List.dropWhile_suffix Text.isWhiteSpace
          (l := (tail.dropWhile Text.isWhiteSpace).dropWhile isNamePart)).length_le
        rw [hend] at h₃
        simp only [Option.some.injEq, Prod.mk.injEq] at h
        obtain ⟨_, rfl⟩ := h
        simp only [List.length_cons] at h₃ ⊢
        omega
      · simp at h
    · simp at h
  · simp at h

/-- The placeholders of a text from left to right, repetitions included. -/
def occurrences (s : List Char) : List (List Char) :=
  match h : placeholder? s with
  | some (name, rest) =>
    have := placeholder?_shorter h
    name :: occurrences rest
  | none =>
    match s with
    | [] => []
    | _ :: rest => occurrences rest
termination_by s.length

/-- The names of a template's placeholders, each once, in the order of their first occurrence. -/
def placeholders (template : String) : List String :=
  (Naming.distinct (occurrences template.toList)).map String.ofList

end ServiceGraph.Template
