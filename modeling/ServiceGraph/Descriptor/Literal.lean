import ServiceGraph.Json.Reader
import ServiceGraph.Syntax.Basic

/-!
Values that are written as types: a literal type stands for its value, a tuple of such types for a list
and an object type for an object.
-/

namespace ServiceGraph

namespace Syntax.TypeExpr

/-- The number with the spelling of a literal, if JSON knows that spelling. -/
def jsonNumber? (text : String) : Option Json :=
  match Json.parse? text with
  | some (.number n) => some (.number n)
  | _ => none

mutual

/-- The value that a type spells out. -/
def json? : TypeExpr → Option Json
  | .literal _ (.string s) => some (.string s)
  | .literal _ (.number text) => jsonNumber? text
  | .literal _ (.bool b) => some (.bool b)
  | .literal _ .null => some .null
  | .keyword _ name => if name = "null" then some .null else none
  | .tuple _ items => (jsonItems? items).map .array
  | .object _ fields [] => (jsonMembers? fields).map Json.ofMembers
  | _ => none

def jsonItems? : List TypeExpr → Option (List Json)
  | [] => some []
  | t :: rest =>
    match json? t, jsonItems? rest with
    | some first, some others => some (first :: others)
    | _, _ => none

def jsonMembers? : List (FieldOf TypeExpr) → Option (List (String × Json))
  | [] => some []
  | f :: rest =>
    match jsonOfField? f, jsonMembers? rest with
    | some first, some others => some (first :: others)
    | _, _ => none

def jsonOfField? : FieldOf TypeExpr → Option (String × Json)
  | ⟨name, _, _, type?, _, _⟩ => (jsonOfDeclared? type?).map (name, ·)

def jsonOfDeclared? : Option TypeExpr → Option Json
  | some t => json? t
  | none => none

end

/-- The texts of a tuple or union of string literals, or of a single one, each with its place. -/
def strings? (t : TypeExpr) : Option (List (String × Span)) :=
  let text? := fun (m : TypeExpr) => m.string?.map (·, m.span)
  match t with
  | .tuple _ members | .union _ members => members.mapM text?
  | single => (text? single).map ([·])

end Syntax.TypeExpr

end ServiceGraph
