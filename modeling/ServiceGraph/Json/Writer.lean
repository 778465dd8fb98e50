import ServiceGraph.Decimal.Layout
import ServiceGraph.Json.Basic
import ServiceGraph.Text.Quoted

/-!
The text of a JSON value: compact, without any white space, or indented by two blanks a level.
-/

namespace ServiceGraph

/-- The text of a number; a whole number has no point. -/
def Number.text : Number → String
  | .integer n => toString n
  | .float x => Decimal.Layout.json.text x

namespace Json

mutual

/-- The text without white space. -/
def compact : Json → String
  | .null => "null"
  | .bool true => "true"
  | .bool false => "false"
  | .number n => n.text
  | .string s => Text.quote s
  | .array items => "[" ++ ",".intercalate (compactItems items) ++ "]"
  | .object members => "\x7b" ++ ",".intercalate (compactMembers members) ++ "\x7d"

def compactItems : List Json → List String
  | [] => []
  | x :: xs => compact x :: compactItems xs

def compactMembers : List (String × Json) → List String
  | [] => []
  | (k, x) :: rest => (Text.quote k ++ ":" ++ compact x) :: compactMembers rest

end

/-- A line break and two blanks for each level. -/
def lineBreak (level : Nat) : String := "\n" ++ String.ofList (List.replicate (2 * level) ' ')

/-- Puts parts on lines of their own, one level deeper, between two brackets. -/
def block (opening closing : String) (level : Nat) (parts : List String) : String :=
  match parts with
  | [] => opening ++ closing
  | _ =>
    opening ++ lineBreak (level + 1) ++ ("," ++ lineBreak (level + 1)).intercalate parts
      ++ lineBreak level ++ closing

mutual

/-- The text with each item and member on a line of its own; empty lists and objects stay closed. -/
def indented (level : Nat) : Json → String
  | .array items => block "[" "]" level (indentedItems (level + 1) items)
  | .object members => block "\x7b" "\x7d" level (indentedMembers (level + 1) members)
  | .null => "null"
  | .bool true => "true"
  | .bool false => "false"
  | .number n => n.text
  | .string s => Text.quote s

def indentedItems (level : Nat) : List Json → List String
  | [] => []
  | x :: xs => indented level x :: indentedItems level xs

def indentedMembers (level : Nat) : List (String × Json) → List String
  | [] => []
  | (k, x) :: rest =>
    (Text.quote k ++ ": " ++ indented level x) :: indentedMembers level rest

end

end Json

end ServiceGraph
