import ServiceGraph.Json.Writer
import ServiceGraph.Template
import ServiceGraph.Text.Lines

/-!
Names and values in emitted declarations. A text is quoted as in JSON; a property name is quoted only if it is
no identifier; a value is spelled as a literal type.
-/

namespace ServiceGraph.Emission

/-- Whether a text is an identifier of ASCII letters, digits, underscores and dollar signs. -/
def isIdentifier (name : String) : Bool :=
  match name.toList with
  | first :: rest => Template.isNameStart first && rest.all Template.isNamePart
  | [] => false

/-- A property name. -/
def property (name : String) : String := if isIdentifier name then name else Text.quote name

/-- Parts between braces, on one line. -/
def braced (parts : List String) : String :=
  match parts with
  | [] => "\x7b\x7d"
  | _ => "\x7b " ++ "; ".intercalate parts ++ " \x7d"

/-- Parts between brackets. -/
def bracketed (parts : List String) : String := "[" ++ ", ".intercalate parts ++ "]"

mutual

/-- The literal type that spells a value. -/
def literal : Json → String
  | .null => "null"
  | .bool b => if b then "true" else "false"
  | .number n => n.text
  | .string s => Text.quote s
  | .array items => bracketed (literalItems items)
  | .object members => braced (literalMembers members)

def literalItems : List Json → List String
  | [] => []
  | x :: rest => literal x :: literalItems rest

def literalMembers : List (String × Json) → List String
  | [] => []
  | (name, x) :: rest => (property name ++ ": " ++ literal x) :: literalMembers rest

end

/-- A line, so many levels deep. -/
def line (level : Nat) (text : String) : String :=
  String.ofList (List.replicate (2 * level) ' ') ++ text ++ "\n"

end ServiceGraph.Emission
