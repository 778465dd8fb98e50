import ServiceGraph.Annotation.Basic
import ServiceGraph.Finding
import ServiceGraph.Schema.Basic

/-!
How tags change a schema.

A list of allowed values makes an enumeration of a text; it may reorder the values of a union but not
change them. Bounds belong to numbers, lengths to texts and lists, patterns and formats to texts. A
tag that does not belong is left out and found; nothing is said about tags of an unsupported schema.
Bounds that leave no value are found too, and stay.
-/

namespace ServiceGraph

namespace Schema

def isText : Schema → Bool
  | .leaf .string _ => true
  | _ => false

def isNumber : Schema → Bool
  | .leaf kind _ => kind.isNumeric
  | _ => false

/-- Whether values of the schema have a length. -/
def isSized : Schema → Bool
  | .leaf .string _ | .list _ _ => true
  | _ => false

/-- The constraints of a schema; most sorts of schemas have none. -/
def constraints : Schema → Constraints
  | .leaf _ c | .list _ c => c
  | _ => .none

def withConstraints (c : Constraints) : Schema → Schema
  | .leaf kind _ => .leaf kind c
  | .list items _ => .list items c
  | other => other

/-- Whether two lists of values have the same length and the first is within the second. -/
def sameValues (declared tagged : List String) : Bool :=
  declared.length == tagged.length && declared.all tagged.contains

/-- Applies a list of allowed values. -/
def withValues (tag : Tagged (List String)) (subject : String) : Schema → Noted Schema
  | .leaf .string _ => pure (.enumeration tag.value)
  | .enumeration declared =>
    if sameValues declared tag.value then pure (.enumeration tag.value)
    else do
      Noted.find (.enumMismatch declared tag.value) tag.span subject
      return .enumeration declared
  | .unsupported reason => pure (.unsupported reason)
  | other => do
    Noted.find (.incompatible "enum" other.describe) tag.span subject
    return other

end Schema

/-- A constraint with a tag applied to it, if the tag belongs there. -/
def Tagged.appliedTo {α : Type} (tag? : Option (Tagged α)) (belongs : Bool) (c? : Option α) :
    Option α :=
  match tag? with
  | some tag => if belongs then some tag.value else c?
  | none => c?

/-- A tag that does not belong, by name and place. -/
def Tagged.misplaced {α : Type} (tag? : Option (Tagged α)) (belongs : Bool) (name : String) :
    List (String × Span) :=
  match tag? with
  | some tag => if belongs then [] else [(name, tag.span)]
  | none => []

namespace TagSet

/-- The constraints of a schema after the tags. -/
def constrained (tags : TagSet) (s : Schema) : Constraints :=
  let c := s.constraints
  ⟨Tagged.appliedTo tags.minimum? s.isNumber c.minimum?,
   Tagged.appliedTo tags.maximum? s.isNumber c.maximum?,
   Tagged.appliedTo tags.minLength? s.isSized c.minLength?,
   Tagged.appliedTo tags.maxLength? s.isSized c.maxLength?,
   Tagged.appliedTo tags.pattern? s.isText c.pattern?,
   Tagged.appliedTo tags.format? s.isText c.format?⟩

/-- The tags that do not belong to a schema. -/
def misplaced (tags : TagSet) (s : Schema) : List (String × Span) :=
  Tagged.misplaced tags.minimum? s.isNumber "min" ++ Tagged.misplaced tags.maximum? s.isNumber "max"
    ++ Tagged.misplaced tags.minLength? s.isSized "minLength"
    ++ Tagged.misplaced tags.maxLength? s.isSized "maxLength"
    ++ Tagged.misplaced tags.pattern? s.isText "pattern"
    ++ Tagged.misplaced tags.format? s.isText "format"

/-- The place of the later one of two tags, if one of them is there. -/
def boundSpan? {α : Type} (low? high? : Option (Tagged α)) : Option Span :=
  (high?.map (·.span)) <|> (low?.map (·.span))

/-- A pair of bounds without a value between them, by their names and the place of a tag. -/
def contradiction {α : Type} (low? high? : Option α) (exceeds : α → α → Bool) (span? : Option Span)
    (names : String × String) : List ((String × String) × Span) :=
  match low?, high?, span? with
  | some low, some high, some span => if exceeds low high then [(names, span)] else []
  | _, _, _ => []

/-- The pairs of bounds that contradict each other. -/
def contradictions (tags : TagSet) (c : Constraints) : List ((String × String) × Span) :=
  contradiction c.minimum? c.maximum? (fun low high => high < low)
      (boundSpan? tags.minimum? tags.maximum?) ("min", "max")
    ++ contradiction c.minLength? c.maxLength? (fun low high => high < low)
      (boundSpan? tags.minLength? tags.maxLength?) ("minLength", "maxLength")

end TagSet

namespace Schema

/-- Applies the tags that are constraints. -/
def withBounds (tags : TagSet) (subject : String) (s : Schema) : Noted Schema :=
  match s with
  | .unsupported reason => pure (.unsupported reason)
  | _ => do
    let c := tags.constrained s
    (tags.misplaced s).forM fun (tag, span) => Noted.find (.incompatible tag s.describe) span subject
    (tags.contradictions c).forM fun ((low, high), span) =>
      Noted.find (.contradictory low high) span subject
    return s.withConstraints c

/-- Applies all tags to the schema of `subject`. -/
def withTags (tags : TagSet) (subject : String) (s : Schema) : Noted Schema := do
  let s ← match tags.enumValues? with
    | some tag => s.withValues tag subject
    | none => pure s
  s.withBounds tags subject

end Schema

end ServiceGraph
