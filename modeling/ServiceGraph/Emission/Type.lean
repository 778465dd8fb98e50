import ServiceGraph.Emission.Comment

/-!
Schemas as types. Constraints, descriptions and defaults stand in the comments of fields; those of
list items are not written.
-/

namespace ServiceGraph.Emission

/-- The type of a leaf. -/
def leafType : LeafKind → String
  | .string => "string"
  | .number => "number"
  | .integer => "Integer"
  | .boolean => "boolean"
  | .null => "null"
  | .any => "unknown"

/-- A union of texts. -/
def enumeration (values : List String) : String :=
  if values.isEmpty then "never" else " | ".intercalate (values.map Text.quote)

/-- An object type from the text of its fields, the braces of which stand `level` deep. -/
def objectType (level : Nat) (fields : String) : String :=
  if fields.isEmpty then "\x7b\x7d"
  else "\x7b\n" ++ fields ++ String.ofList (List.replicate (2 * level) ' ') ++ "\x7d"

mutual

/-- The type for a schema, on a line that is `level` deep. -/
def type (level : Nat) : Schema → String
  | .leaf kind _ => leafType kind
  | .enumeration values => enumeration values
  | .list items _ => "Array<" ++ type level items ++ ">"
  | .object fields => objectType level (fieldLines (level + 1) fields)
  | .unsupported _ => "unknown"

/-- The fields of an object, each with its comment. -/
def fieldLines (level : Nat) : List (SchemaFieldOf Schema) → String
  | [] => ""
  | ⟨name, schema, isRequired, description?, default?, isDeprecated⟩ :: rest =>
    let mark := if isRequired then ": " else "?: "
    describe level description? (fieldTags schema default? isDeprecated)
      ++ line level (property name ++ mark ++ type level schema ++ ";") ++ fieldLines level rest

end

mutual

/-- Whether a type for the schema names the type of whole numbers. -/
def usesInteger : Schema → Bool
  | .leaf kind _ => kind == .integer
  | .list items _ => usesInteger items
  | .object fields => anyUsesInteger fields
  | .enumeration _ | .unsupported _ => false

def anyUsesInteger : List (SchemaFieldOf Schema) → Bool
  | [] => false
  | ⟨_, schema, _, _, _, _⟩ :: rest => usesInteger schema || anyUsesInteger rest

end

end ServiceGraph.Emission
