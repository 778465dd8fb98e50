import ServiceGraph.Schema.Basic

/-!
Schemas as JSON documents.

* `Schema.document` shows a schema as it is, node by node; the arrangement of the fields of an object is
  a parameter, and `byName` is the usual one.
* `Schema.published` is the schema in the vocabulary of JSON Schema, with sorted keys. Leaves that hold
  anything and unsupported nodes become the empty schema, which accepts every value.
-/

namespace ServiceGraph

namespace Constraints

/-- The constraints that are there, in a fixed order. -/
def document (c : Constraints) : Json :=
  Json.record
    [("minimum", c.minimum?.map .ofFloat), ("maximum", c.maximum?.map .ofFloat),
     ("minLength", c.minLength?.map .ofNat), ("maxLength", c.maxLength?.map .ofNat),
     ("pattern", c.pattern?.map .string), ("format", c.format?.map .string)]

/-- The document of constraints, unless there are none. -/
def document? (c : Constraints) : Option Json := if c.isNone then .none else some c.document

/-- The constraints in the vocabulary of JSON Schema, where the lengths of texts and of lists have
different names. -/
def published (c : Constraints) (isText : Bool) : List (String × Option Json) :=
  let (least, most) := if isText then ("minLength", "maxLength") else ("minItems", "maxItems")
  [("minimum", c.minimum?.map .ofFloat), ("maximum", c.maximum?.map .ofFloat),
   (least, c.minLength?.map .ofNat), (most, c.maxLength?.map .ofNat),
   ("pattern", c.pattern?.map .string), ("format", c.format?.map .string)]

end Constraints

namespace Schema

/-- What a field's document says besides its name and its schema. -/
def fieldDetails (description? : Option String) (default? : Option Json) (isDeprecated : Bool) :
    List (String × Option Json) :=
  [("description", description?.map .string), ("default", default?),
   ("deprecated", Json.ofFlag isDeprecated)]

mutual

/-- The document of a schema, with the fields of objects arranged by `arrange`. -/
def document (arrange : List (String × Json) → Json) : Schema → Json
  | .leaf kind c =>
    Json.record [("node", some (.string "leaf")), ("kind", some (.string kind.text)),
      ("constraints", c.document?)]
  | .enumeration values => .object [("node", .string "enum"), ("values", .ofStrings values)]
  | .list items c =>
    Json.record [("node", some (.string "list")), ("items", some (document arrange items)),
      ("constraints", c.document?)]
  | .object fields =>
    .object [("node", .string "object"), ("fields", arrange (fieldDocuments arrange fields))]
  | .unsupported reason => .object [("node", .string "unsupported"), ("reason", .string reason)]

def fieldDocuments (arrange : List (String × Json) → Json) :
    List (SchemaFieldOf Schema) → List (String × Json)
  | [] => []
  | ⟨name, schema, isRequired, description?, default?, isDeprecated⟩ :: rest =>
    (name, Json.record <|
      ("schema", some (document arrange schema)) :: ("required", some (.bool isRequired)) ::
        fieldDetails description? default? isDeprecated)
      :: fieldDocuments arrange rest

end

/-- Fields as the members of an object. -/
def byName (fields : List (String × Json)) : Json := .object fields

/-- Adds members to an object. -/
def withMembers (document : Json) (members : List (String × Option Json)) : Json :=
  match document with
  | .object own => Json.ofMembers (own ++ members.filterMap fun m => m.2.map (m.1, ·))
  | other => other

mutual

/-- The schema in the vocabulary of JSON Schema. -/
def published : Schema → Json
  | .leaf kind c =>
    Json.ofOptional <|
      ("type", if kind = .any then none else some (.string kind.text)) ::
        c.published (kind == .string)
  | .enumeration values => Json.ofMembers [("type", .string "string"), ("enum", .ofStrings values)]
  | .list items c =>
    Json.ofOptional <|
      ("type", some (.string "array")) :: ("items", some (published items)) :: c.published false
  | .object fields =>
    let required := (fields.filter (·.isRequired)).map (·.name)
    Json.ofOptional
      [("type", some (.string "object")),
       ("properties", some (Json.ofMembers (publishedFields fields))),
       ("required", if required.isEmpty then none else some (.ofStrings required))]
  | .unsupported _ => .object []

def publishedFields : List (SchemaFieldOf Schema) → List (String × Json)
  | [] => []
  | ⟨name, schema, _, description?, default?, isDeprecated⟩ :: rest =>
    (name, withMembers (published schema) (fieldDetails description? default? isDeprecated))
      :: publishedFields rest

end

end Schema

end ServiceGraph
