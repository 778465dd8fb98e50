import ServiceGraph.Decimal.Layout
import ServiceGraph.Pattern.Reader
import ServiceGraph.Schema.Basic

/-!
Whether a value can stand in for a missing one: `Schema.objection?` gives the reason why a value does
not fit a schema, and none if it fits. The items of lists and the fields of objects are not looked at.
-/

namespace ServiceGraph

namespace Json

def string? : Json → Option String
  | .string s => some s
  | _ => none

def number? : Json → Option Float
  | .number n => some n.toFloat
  | _ => none

end Json

/-- The first reason, if a test fails on a bound that is there. -/
def unlessBound {α : Type} (bound? : Option α) (breaks : α → Bool) (reason : α → String) :
    Option String :=
  bound?.bind fun b => if breaks b then some (reason b) else none

namespace Constraints

/-- Why a text breaks the constraints. A pattern that cannot be read lets every text through. -/
def objectionToText? (c : Constraints) (text : String) : Option String :=
  (unlessBound c.minLength? (text.length < ·) fun n => s!"shorter than minLength {n}")
    <|> (unlessBound c.maxLength? (· < text.length) fun n => s!"longer than maxLength {n}")
    <|> (unlessBound c.pattern? (fun p => Pattern.isValid p && !Pattern.occursIn p text) fun p =>
      s!"does not match pattern `{p}`")

/-- Why a number breaks the constraints. -/
def objectionToNumber? (c : Constraints) (x : Float) : Option String :=
  (unlessBound c.minimum? (x < ·) fun b => "below minimum " ++ Decimal.Layout.plain.text b)
    <|> (unlessBound c.maximum? (· < x) fun b => "above maximum " ++ Decimal.Layout.plain.text b)

/-- Why a list breaks the constraints. -/
def objectionToLength? (c : Constraints) (length : Nat) : Option String :=
  (unlessBound c.minLength? (length < ·) fun n => s!"fewer than minLength {n} items")
    <|> (unlessBound c.maxLength? (· < length) fun n => s!"more than maxLength {n} items")

end Constraints

namespace Schema

/-- Whether a number has no fractional part. -/
def isWhole (x : Float) : Bool := x.floor == x

/-- Why a value does not fit a leaf. -/
def objectionToLeaf? (kind : LeafKind) (c : Constraints) (value : Json) : Option String :=
  match kind with
  | .string =>
    match value.string? with
    | some text => c.objectionToText? text
    | none => some "expected a string"
  | .number =>
    match value.number? with
    | some x => c.objectionToNumber? x
    | none => some "expected a number"
  | .integer =>
    match value.number? with
    | some x => if isWhole x then c.objectionToNumber? x else some "expected an integer"
    | none => some "expected a number"
  | .boolean =>
    match value with
    | .bool _ => none
    | _ => some "expected a boolean"
  | .null =>
    match value with
    | .null => none
    | _ => some "expected null"
  | .any => none

/-- Why a value cannot be a default for a schema, if it cannot. -/
def objection? (schema : Schema) (value : Json) : Option String :=
  match schema with
  | .leaf kind c => objectionToLeaf? kind c value
  | .enumeration values =>
    if value.string?.any values.contains then none
    else some ("not one of " ++ ", ".intercalate values)
  | .list _ c =>
    match value with
    | .array items => c.objectionToLength? items.length
    | _ => some "expected an array"
  | .object _ =>
    match value with
    | .object _ => none
    | _ => some "expected an object"
  | .unsupported _ => none

end Schema

end ServiceGraph
