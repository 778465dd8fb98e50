import ServiceGraph.Emission.Literal
import ServiceGraph.Schema.Basic

/-!
Doc comments in emitted declarations.

A comment is a description and tags, line by line, on one line if there is just one. What would end
the comment is broken up by a backslash, and so is an `@` that would start a tag in a description.
-/

namespace ServiceGraph.Emission

/-- Puts a backslash into each end of a comment. -/
def breakClosers : List Char → List Char
  | '*' :: '/' :: rest => '*' :: '\\' :: '/' :: breakClosers rest
  | c :: rest => c :: breakClosers rest
  | [] => []

/-- Whether a text holds the end of a comment. -/
def hasCloser : List Char → Bool
  | '*' :: '/' :: _ => true
  | _ :: rest => hasCloser rest
  | [] => false

/-- Whether a line would be read as a tag. -/
def startsTag (line : List Char) : Bool := (Text.trimStart line).head? == some '@'

/-- Whether a description can be read back from a comment. -/
def isCommentSafe (description : String) : Bool :=
  !hasCloser description.toList && !(Text.lines description.toList).any startsTag

/-- A line of a description as it is written. -/
def descriptionLine (line : List Char) : List Char :=
  let broken := breakClosers line
  if startsTag broken then '\\' :: Text.trimStart broken else broken

/-- The tags that give constraints. -/
def constraintTags (c : Constraints) : List String :=
  let number := fun (name : String) (x : Float) => name ++ Decimal.Layout.plain.text x
  (c.minimum?.map (number "@min ")).toList ++ (c.maximum?.map (number "@max ")).toList
    ++ (c.minLength?.map fun n => s!"@minLength {n}").toList
    ++ (c.maxLength?.map fun n => s!"@maxLength {n}").toList
    ++ (c.pattern?.map fun p => "@pattern " ++ String.ofList (breakClosers p.toList)).toList
    ++ (c.format?.map ("@format " ++ ·)).toList

/-- The tags that give the constraints of a schema. -/
def schemaTags : Schema → List String
  | .leaf _ c | .list _ c => constraintTags c
  | _ => []

/-- The tags of a field. -/
def fieldTags (schema : Schema) (default? : Option Json) (isDeprecated : Bool) : List String :=
  schemaTags schema ++ (default?.map fun d => "@default " ++ d.compact).toList
    ++ (if isDeprecated then ["@deprecated"] else [])

/-- The lines of a description, ready to be written. -/
def descriptionLines (description : String) : List String :=
  (Text.lines description.toList).map fun l => String.ofList (descriptionLine l)

/-- A comment with the given lines; no comment if there are none. -/
def comment (level : Nat) : List String → String
  | [] => ""
  | [single] => line level ("/** " ++ single ++ " */")
  | several =>
    let body := several.map fun l => line level (if l.isEmpty then " *" else " * " ++ l)
    line level "/**" ++ String.join body ++ line level " */"

/-- The comment for a description and tags. -/
def describe (level : Nat) (description? : Option String) (tags : List String) : String :=
  comment level ((description?.map descriptionLines).getD [] ++ tags)

end ServiceGraph.Emission
