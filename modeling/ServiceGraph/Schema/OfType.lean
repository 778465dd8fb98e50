import ServiceGraph.Annotation.Table
import ServiceGraph.Schema.Default
import ServiceGraph.Schema.Tagging
import ServiceGraph.Shape.Catalog

/-!
The schemas of types.

A type that cannot be described becomes an unsupported schema with a warning; nothing is ever left
out. A reference to a declared shape is replaced by the shape's own schema. The shapes that may still
be expanded are handed down as a list, and expanding one removes it: a reference to a shape that is not
in the list leads back to one that is being expanded, and there the schema is cut. Since the list
grows shorter, the schema is finite.
-/

namespace ServiceGraph

open Syntax

/-- What a type is read against: the declared shapes, and what comments say about their fields. -/
structure TypeContext where
  catalog : ShapeCatalog
  annotations : AnnotationTable

/-- The schema of a type, and whether the type has a value that counts as a missing one. -/
structure TypeSchema where
  schema : Schema
  isOptional : Bool
deriving Inhabited

namespace TypeSchema

def ofSchema (s : Schema) : TypeSchema := ⟨s, false⟩

/-- Warns that something has no schema. -/
def warnUnsupported (span : Span) (what : String) : Noted Unit :=
  Noted.warn .unsupportedConstruct span s!"{what} cannot be translated to a schema"

/-- The schema of something that has none. -/
def unsupported (span : Span) (what : String) : Noted TypeSchema := do
  warnUnsupported span what
  return ofSchema (.unsupported what)

/-- Warns of members that are no fields. -/
def warnSkipped (members : List SkippedMember) : Noted Unit :=
  members.forM fun m => warnUnsupported m.span (m.construct ++ "s")

def ofKeyword (span : Span) : String → Noted TypeSchema
  | "string" => pure (ofSchema (.plain .string))
  | "number" => pure (ofSchema (.plain .number))
  | "boolean" => pure (ofSchema (.plain .boolean))
  | "null" => pure (ofSchema (.plain .null))
  | "undefined" => pure ⟨.plain .null, true⟩
  | "any" | "unknown" => pure (ofSchema (.plain .any))
  | other => unsupported span s!"`{other}` type"

def ofLiteral (span : Span) : Literal → Noted TypeSchema
  | .string s => pure (ofSchema (.enumeration [s]))
  | .bool _ => pure (ofSchema (.plain .boolean))
  | .number _ => do
    Noted.warn .unsupportedConstruct span "numeric literal type is widened to number"
    return ofSchema (.plain .number)
  | .null => pure (ofSchema (.plain .null))
  | .undefined => pure ⟨.plain .null, true⟩

/-- The schema of a name that no shape has. -/
def ofForeignName (span : Span) (name : String) : Noted TypeSchema :=
  let simple := TypeExpr.lastSegment name
  if ["Integer", "integer", "int"].contains simple then pure (ofSchema (.plain .integer))
  else if simple = "Date" then
    pure (ofSchema (.leaf .string { Constraints.none with format? := some "date-time" }))
  else if (ShapeKind.ofMarker? simple).isSome then
    unsupported span s!"marker `{simple}` used as a field type"
  else unsupported span s!"unknown type `{name}`"

def isNullType : TypeExpr → Bool
  | .literal _ .null => true
  | .keyword _ name => name == "null"
  | _ => false

def isUndefinedType : TypeExpr → Bool
  | .literal _ .undefined => true
  | .keyword _ name => name == "undefined"
  | _ => false

def isBooleanType : TypeExpr → Bool
  | .literal _ (.bool _) => true
  | .keyword _ name => name == "boolean"
  | _ => false

def isNumberLiteral : TypeExpr → Bool
  | .literal _ (.number _) => true
  | _ => false

/-- The members of a union that say what its values are. -/
def kept (members : List TypeExpr) : List TypeExpr :=
  members.filter fun m => !isNullType m && !isUndefinedType m

theorem sizeOf_lt_of_kept {members : List TypeExpr} {t : TypeExpr} (h : kept members = [t]) :
    sizeOf t < sizeOf members := by
  have ht : t ∈ kept members := by simp [h]
  exact List.sizeOf_lt_of_mem (List.mem_filter.mp ht).1

/-- Warns of the `null` members of a union. -/
def warnNullMembers (members : List TypeExpr) : Noted Unit :=
  (members.filter isNullType).forM fun m =>
    Noted.warn .unsupportedConstruct m.span "`null` union member is ignored"

/-- The schema of a union of two or more members, the first of which starts at `span`. -/
def ofMembers (span : Span) (members : List TypeExpr) : Noted TypeSchema :=
  if members.all (·.string?.isSome) then
    pure (ofSchema (.enumeration (Naming.distinct (members.filterMap (·.string?)))))
  else if members.all isBooleanType then pure (ofSchema (.plain .boolean))
  else if members.all isNumberLiteral then do
    Noted.warn .unsupportedConstruct span "numeric literal union is widened to number"
    return ofSchema (.plain .number)
  else unsupported span "union of mixed types"

/-- How findings name a field. -/
def subject (owner path : String) : String := if path.isEmpty then owner else owner ++ "." ++ path

/-- The field of an object from the schema of its type, with what its comment says. -/
def field (annotations : AnnotationTable) (owner path name : String) (mayBeMissing : Bool)
    (t : TypeSchema) : Noted SchemaField :=
  let isRequired := !(mayBeMissing || t.isOptional)
  match annotations.get? owner path with
  | none => pure ⟨name, t.schema, isRequired, none, none, false⟩
  | some note => do
    let subject := subject owner path
    let schema ← t.schema.withTags note.tags subject
    let isRequired := (note.tags.required?.map (·.value)).getD isRequired
    match note.tags.default? with
    | none => pure ()
    | some tag =>
      match schema.objection? tag.value with
      | some reason => Noted.find (.defaultViolation reason) tag.span subject
      | none => pure ()
      if isRequired then Noted.find .defaultOnRequired tag.span subject
    return ⟨name, schema, isRequired, note.description?, note.tags.default?.map (·.value),
      note.tags.isDeprecated⟩

mutual

/-- The schema of a type that stands at `path` in the shape `owner`. -/
def ofType (ctx : TypeContext) (free : List String) (owner path : String) (t : TypeExpr) :
    Noted TypeSchema :=
  match t with
  | .keyword span name => ofKeyword span name
  | .literal span value => ofLiteral span value
  | .array _ item => do
    let item ← ofType ctx free owner (TypePath.item path) item
    return ofSchema (.listOf item.schema)
  | .reference span name [item] => do
    if TypePath.isListName name then
      let item ← ofType ctx free owner (TypePath.item path) item
      return ofSchema (.listOf item.schema)
    else ofName ctx free span name
  | .reference span name _ => ofName ctx free span name
  | .object _ fields skipped => do
    warnSkipped skipped
    let fields ← ofFields ctx free owner path fields
    return ofSchema (.ofFields fields)
  | .union _ members => do
    warnNullMembers members
    let isOptional := members.any isUndefinedType
    match h : kept members with
    | [] => return ⟨.plain .null, isOptional⟩
    | [single] =>
      have := sizeOf_lt_of_kept h
      let t ← ofType ctx free owner path single
      return ⟨t.schema, isOptional || t.isOptional⟩
    | first :: rest =>
      let t ← ofMembers first.span (first :: rest)
      return ⟨t.schema, isOptional⟩
  | .tuple span _ => unsupported span "tuple type"
  | .intersection span _ => unsupported span "intersection type"
  | .function span => unsupported span "function type"
  | .other span construct =>
    unsupported span (String.ofList (construct.toList.map fun c => if c = '_' then ' ' else c)
      ++ " syntax")
termination_by (free.length, sizeOf t)

/-- The schema of a name. -/
def ofName (ctx : TypeContext) (free : List String) (span : Span) (name : String) :
    Noted TypeSchema :=
  match ctx.catalog.get? (TypeExpr.lastSegment name) with
  | none => ofForeignName span name
  | some s =>
    if h : s.name ∈ free then
      have : (free.erase s.name).length < free.length := by
        rw [List.length_erase_of_mem h]
        have := List.length_pos_of_mem h
        omega
      if s.isObjectLike then do
        warnSkipped s.skipped
        let fields ← ofMerged ctx (free.erase s.name) s.fields
        return ofSchema (.ofFields fields)
      else do
        let t ← ofType ctx (free.erase s.name) s.name "" s.decl.type
        match ctx.annotations.declaration? s.name with
        | some note => return { t with schema := ← t.schema.withTags note.tags s.name }
        | none => return t
    else unsupported span s!"recursive reference to `{s.name}`"
termination_by (free.length, 0)

/-- The fields of an object type that stands at `path`. -/
def ofFields (ctx : TypeContext) (free : List String) (owner path : String)
    (fields : List (FieldOf TypeExpr)) : Noted (List SchemaField) :=
  match fields with
  | [] => pure []
  | f :: rest => do
    let first ← ofField ctx free owner (TypePath.field path f.name) f
    let others ← ofFields ctx free owner path rest
    return first :: others
termination_by (free.length, sizeOf fields)

/-- The fields of a shape, each read where it is declared. -/
def ofMerged (ctx : TypeContext) (free : List String) (fields : List MergedField) :
    Noted (List SchemaField) :=
  match fields with
  | [] => pure []
  | ⟨f, owner⟩ :: rest => do
    let first ← ofField ctx free owner f.name f
    let others ← ofMerged ctx free rest
    return first :: others
termination_by (free.length, sizeOf fields)

/-- The field at `path` of the shape `owner`. -/
def ofField (ctx : TypeContext) (free : List String) (owner path : String)
    (f : FieldOf TypeExpr) : Noted SchemaField :=
  match f with
  | ⟨name, isOptional, _, type?, _, _⟩ => do
    let t ← ofDeclared ctx free owner path type?
    field ctx.annotations owner path name isOptional t
termination_by (free.length, sizeOf f)

/-- The schema of a field's type; a field without one holds anything. -/
def ofDeclared (ctx : TypeContext) (free : List String) (owner path : String)
    (type? : Option TypeExpr) : Noted TypeSchema :=
  match type? with
  | some t => ofType ctx free owner path t
  | none => pure (ofSchema (.plain .any))
termination_by (free.length, sizeOf type?)

end

end TypeSchema

end ServiceGraph
