import ServiceGraph.Descriptor.Literal
import ServiceGraph.Descriptor.Site
import ServiceGraph.Schema.OfType

/-!
The descriptors that shapes declare.

A field with a value is read from a literal type; parameters, results and arguments are read as
schemas. Whatever is wrong is noted, and reading goes on: a descriptor is given up only if the fields
that identify it are missing.
-/

namespace ServiceGraph

open Syntax

namespace ShapeInfo

/-! ## Fields -/

/-- Warns of fields without a meaning, and of members that are no fields. -/
def checkFields (s : ShapeInfo) : Noted Unit := do
  (s.fields.filter fun f => !s.kind.recognizedFields.contains f.name).forM fun f =>
    Noted.warn .unknownField f.field.span
      s!"`{f.name}` is not a recognized {s.kind.displayName} field and is ignored"
  TypeSchema.warnSkipped s.skipped

def reportMissing (s : ShapeInfo) (name : String) : Noted Unit :=
  Noted.report .missingField s.decl.nameSpan s!"`{s.name}` is missing required field `{name}`"

/-- The text of a field that is there. -/
def textOf (s : ShapeInfo) (f : MergedField) : Noted (Option String) :=
  match f.type?.bind TypeExpr.string? with
  | some text => pure (some text)
  | none => do
    Noted.report .nonLiteralField f.field.span
      s!"field `{f.name}` of `{s.name}` must be a string literal"
    return none

/-- The text of a field, if the shape has it. -/
def text? (s : ShapeInfo) (name : String) : Noted (Option String) :=
  match s.field? name with
  | some f => s.textOf f
  | none => pure none

/-- The text of a field that the shape must have. -/
def requiredText? (s : ShapeInfo) (name : String) : Noted (Option String) :=
  match s.field? name with
  | some f => s.textOf f
  | none => do
    s.reportMissing name
    return none

/-- The value of a flag; a flag that is not there is not set. -/
def flag (s : ShapeInfo) (name : String) : Noted Bool :=
  match s.field? name with
  | none => pure false
  | some f =>
    match f.type?.bind TypeExpr.bool? with
    | some value => pure value
    | none => do
      Noted.report .invalidFieldType f.field.span s!"`{name}` of `{s.name}` must be `true` or `false`"
      return false

/-- The description: a field, or else what the shape's comment says. -/
def description? (s : ShapeInfo) (annotations : AnnotationTable) : Noted (Option String) :=
  match s.field? "description" with
  | some f => s.textOf f
  | none => pure ((annotations.declaration? s.name).bind (·.description?))

/-- The shapes that may be expanded below a shape: all but the shape itself. -/
def others (s : ShapeInfo) (ctx : TypeContext) : List String :=
  (ctx.catalog.shapes.map (·.name)).erase s.name

/-- The schema of a field. -/
def schemaOf (s : ShapeInfo) (ctx : TypeContext) (f : MergedField) : Noted Schema := do
  let t ← TypeSchema.ofDeclared ctx (s.others ctx) f.owner f.name f.type?
  match ctx.annotations.get? f.owner f.name with
  | some note => t.schema.withTags note.tags (TypeSchema.subject f.owner f.name)
  | none => return t.schema

/-- The fields of an object that a field describes. Nothing is said about a schema that is not
supported, since that has been said before. -/
def objectFields? (s : ShapeInfo) (ctx : TypeContext) (name : String) :
    Noted (Option (List SchemaField)) :=
  match s.field? name with
  | none => pure none
  | some f => do
    match ← s.schemaOf ctx f with
    | .object fields => return some fields
    | .unsupported _ => return none
    | other =>
      Noted.report .invalidFieldType f.field.span
        s!"`{name}` of `{s.name}` must be an object type, found {other.describe}"
      return none

end ShapeInfo

/-! ## Services -/

/-- Why a type describes no authentication. -/
inductive AuthProblem
  | notObject
  | unknownType
  | notText (field : String)
  | missingIssuer
  | scopesNotTexts
deriving Repr, DecidableEq

namespace AuthProblem

def message : AuthProblem → String
  | .notObject => "`auth` must be an object type"
  | .unknownType => "auth `type` must be \"apiKey\" or \"oauth\""
  | .notText field => s!"auth `{field}` must be a string literal"
  | .missingIssuer => "oauth auth requires an `issuer`"
  | .scopesNotTexts => "auth `scopes` must list string literals"

end AuthProblem

namespace Auth

/-- The type of the first field of a name. -/
def typeOf? (fields : List Field) (name : String) : Option TypeExpr :=
  (fields.find? (·.name == name)).bind (·.type?)

/-- The text of a field that may be left out. -/
def text? (fields : List Field) (name : String) : Except AuthProblem (Option String) :=
  match typeOf? fields name with
  | none => .ok none
  | some t =>
    match t.string? with
    | some text => .ok (some text)
    | none => .error (.notText name)

def scopes (fields : List Field) : Except AuthProblem (List String) :=
  match typeOf? fields "scopes" with
  | none => .ok []
  | some t =>
    match t.strings? with
    | some texts => .ok (texts.map (·.1))
    | none => .error .scopesNotTexts

def ofFields (fields : List Field) : Except AuthProblem Auth :=
  match (typeOf? fields "type").bind TypeExpr.string? with
  | some "apiKey" => do
    let header ← text? fields "header"
    let env ← text? fields "env"
    return .apiKey (header.getD "Authorization") env
  | some "oauth" => do
    match ← text? fields "issuer" with
    | none => throw .missingIssuer
    | some issuer =>
      let scopes ← scopes fields
      let audience ← text? fields "audience"
      return .oauth issuer audience scopes
  | _ => .error .unknownType

def ofType : Option TypeExpr → Except AuthProblem Auth
  | some (.object _ fields _) => ofFields fields
  | _ => .error .notObject

/-- The authentication that a field describes. -/
def ofField (f : MergedField) : Noted (Option Auth) :=
  match ofType f.type? with
  | .ok auth => pure (some auth)
  | .error problem => do
    Noted.report .invalidAuth f.field.span problem.message
    return none

end Auth

namespace Service

/-- The service that a shape declares, after an earlier one. -/
def ofShape (ctx : TypeContext) (s : ShapeInfo) (earlier? : Option Service) :
    Noted (Option Service) := do
  s.checkFields
  let name ← s.requiredText? "name"
  let version ← s.requiredText? "version"
  let description ← s.description? ctx.annotations
  let auth ← match s.field? "auth" with
    | some f => Auth.ofField f
    | none => pure none
  match name, version, earlier? with
  | some name, some version, none => return some ⟨name, version, description, auth⟩
  | some name, some _, some earlier =>
    Noted.report .duplicateService s.decl.nameSpan
      s!"service `{name}` is declared after service `{earlier.name}`; a file declares exactly one"
    return none
  | _, _, _ => return none

end Service

/-! ## Operations -/

namespace OperationFlags

def ofShape (s : ShapeInfo) : Noted OperationFlags := do
  let readOnly ← s.flag "readOnly"
  let destructive ← s.flag "destructive"
  let idempotent ← s.flag "idempotent"
  let openWorld ← s.flag "openWorld"
  let requiresConfirmation ← s.flag "requiresConfirmation"
  return ⟨readOnly, destructive, idempotent, openWorld, requiresConfirmation⟩

end OperationFlags

namespace Operation

def ofShape (ctx : TypeContext) (s : ShapeInfo) : Noted (Option Operation) := do
  s.checkFields
  let name ← s.requiredText? "name"
  let description ← s.description? ctx.annotations
  let params ← s.objectFields? ctx "params"
  let result ← match s.field? "result" with
    | some f => some <$> s.schemaOf ctx f
    | none => pure none
  let flags ← OperationFlags.ofShape s
  return name.map fun name =>
    ⟨name, description, .object (params.getD []), result, flags, none⟩

end Operation

/-! ## Prompts -/

namespace Prompt

/-- The content of a prompt, from its template and whether it is dynamic. It has to be either. -/
def contentOf (s : ShapeInfo) (template? : Option String) (isDynamic : Bool) :
    Noted PromptContent :=
  match (s.field? "template").isSome, isDynamic with
  | false, true => pure .dynamic
  | true, false => pure (.template (template?.getD ""))
  | hasTemplate, _ => do
    let problem :=
      if hasTemplate then "declares both a `template` and `dynamic: true`"
      else "needs either a `template` or `dynamic: true`"
    Noted.report .conflictingContent s.decl.nameSpan s!"prompt `{s.name}` {problem}"
    return .template (template?.getD "")

def ofShape (ctx : TypeContext) (s : ShapeInfo) : Noted (Option Prompt) := do
  s.checkFields
  let name ← s.requiredText? "name"
  let description ← s.description? ctx.annotations
  let arguments ← s.objectFields? ctx "args"
  let template ← s.text? "template"
  let isDynamic ← s.flag "dynamic"
  let content ← contentOf s template isDynamic
  return name.map fun name => ⟨name, description, arguments.getD [], content, none⟩

end Prompt

/-! ## Resources -/

namespace Resource

/-- The value of a resource's data. -/
def dataOf (s : ShapeInfo) (f : MergedField) : Noted (Option Json) :=
  match f.type?.bind TypeExpr.json? with
  | some value => pure (some value)
  | none => do
    Noted.report .invalidFieldType f.field.span
      s!"`data` of `{s.name}` must be built from literal types"
    return none

/-- The content of a resource, from its data and whether it is dynamic. It has to be either. -/
def contentOf (s : ShapeInfo) (isDynamic : Bool) : Noted ResourceContent := do
  let data ← match s.field? "data" with
    | some f => dataOf s f
    | none => pure none
  match (s.field? "data").isSome, isDynamic with
  | false, true => return .dynamic
  | true, false => return .static (data.getD .null)
  | hasData, _ =>
    let problem :=
      if hasData then "declares both `data` and `dynamic: true` or `subscribable: true`"
      else "needs either `data`, `dynamic: true` or `subscribable: true`"
    Noted.report .conflictingContent s.decl.nameSpan s!"resource `{s.name}` {problem}"
    return .static (data.getD .null)

/-- Checks that a URI is one, and that only a dynamic resource has a URI with variables. -/
def checkUri (s : ShapeInfo) (uri : String) (isDynamic : Bool) : Noted Unit := do
  let span := ((s.field? "uri").map (·.field.span)).getD s.decl.nameSpan
  if !isUri uri then
    Noted.report .invalidUri span s!"`{uri}` is not a valid URI; expected `scheme:rest`"
  if isTemplateUri uri && !isDynamic then
    Noted.report .conflictingContent span s!"resource template `{uri}` must be dynamic"

/-- The media type of a resource that names none. -/
def defaultMimeType : ResourceContent → String
  | .static (.string _) | .dynamic => "text/plain"
  | .static _ => "application/json"

/-- The resource that a shape declares. One that can be subscribed to is served by its handler. -/
def ofShape (ctx : TypeContext) (s : ShapeInfo) : Noted (Option Resource) := do
  s.checkFields
  let uri ← s.requiredText? "uri"
  let name ← s.requiredText? "name"
  let description ← s.description? ctx.annotations
  let mimeType ← s.text? "mimeType"
  let subscribable ← s.flag "subscribable"
  let dynamic ← s.flag "dynamic"
  let isDynamic := dynamic || subscribable
  let content ← contentOf s isDynamic
  match uri with
  | none => return none
  | some uri =>
    checkUri s uri isDynamic
    return name.map fun name =>
      ⟨uri, name, mimeType.getD (defaultMimeType content), description, subscribable, content, none⟩

end Resource

/-! ## Groups -/

namespace Group

/-- The operations that a group lists, each with its place. -/
def operationsOf (s : ShapeInfo) : Noted (List (String × Span)) :=
  match s.field? "tools" with
  | none => do
    s.reportMissing "tools"
    return []
  | some f =>
    match f.type?.bind TypeExpr.strings? with
    | some found => pure found
    | none => do
      Noted.report .invalidFieldType f.field.span
        s!"`tools` of `{s.name}` must list operation names as string literals"
      return []

/-- The group that a shape declares, and the places of its operations. -/
def ofShape (ctx : TypeContext) (s : ShapeInfo) : Noted (Option (Group × List Span)) := do
  s.checkFields
  let name ← s.requiredText? "name"
  let description ← s.description? ctx.annotations
  let operations ← operationsOf s
  return name.map fun name => (⟨name, description, operations.map (·.1)⟩, operations.map (·.2))

end Group

end ServiceGraph
