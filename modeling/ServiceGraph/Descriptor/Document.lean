import ServiceGraph.Descriptor.Basic
import ServiceGraph.Schema.Document

/-!
The descriptor graph as a JSON document. Every descriptor has its members in a fixed order; those
that are absent are left out, but a missing service or handler is `null`.
-/

namespace ServiceGraph

/-- A value, or `null`. -/
def Json.orNull {α : Type} (encode : α → Json) : Option α → Json
  | some x => encode x
  | none => .null

namespace Auth

def document : Auth → Json
  | .apiKey header env? =>
    Json.record [("type", some (.string "apiKey")), ("header", some (.string header)),
      ("env", env?.map .string)]
  | .oauth issuer audience? scopes =>
    Json.record [("type", some (.string "oauth")), ("issuer", some (.string issuer)),
      ("audience", audience?.map .string), ("scopes", some (.ofStrings scopes))]

end Auth

namespace Service

def document (s : Service) : Json :=
  Json.record [("name", some (.string s.name)), ("version", some (.string s.version)),
    ("description", s.description?.map .string), ("auth", s.auth?.map Auth.document)]

end Service

namespace Handler

def document? : Option Handler → Json := Json.orNull fun h => .object [("symbol", .string h.symbol)]

end Handler

namespace OperationFlags

def document (f : OperationFlags) : Json := .object (f.named.map fun (name, b) => (name, .bool b))

end OperationFlags

section

variable (arrange : List (String × Json) → Json)

def Operation.document (o : Operation) : Json :=
  Json.record [("name", some (.string o.name)), ("description", o.description?.map .string),
    ("params", some (o.params.document arrange)), ("result", o.result?.map (·.document arrange)),
    ("flags", some o.flags.document), ("handler", some (Handler.document? o.handler?))]

/-- The document of a prompt's argument. -/
def SchemaFieldOf.argumentDocument (f : SchemaField) : Json :=
  Json.record [("name", some (.string f.name)), ("description", f.description?.map .string),
    ("required", some (.bool f.isRequired)), ("schema", some (f.schema.document arrange)),
    ("default", f.default?), ("deprecated", Json.ofFlag f.isDeprecated)]

def PromptContent.document : PromptContent → Json
  | .template text => .object [("kind", .string "template"), ("text", .string text)]
  | .dynamic => .object [("kind", .string "dynamic")]

def Prompt.document (p : Prompt) : Json :=
  Json.record [("name", some (.string p.name)), ("description", p.description?.map .string),
    ("arguments", some (.array (p.arguments.map (·.argumentDocument arrange)))),
    ("content", some p.content.document), ("handler", some (Handler.document? p.handler?))]

def ResourceContent.document : ResourceContent → Json
  | .static value => .object [("kind", .string "static"), ("value", value)]
  | .dynamic => .object [("kind", .string "dynamic")]

def Resource.document (r : Resource) : Json :=
  Json.record [("uri", some (.string r.uri)), ("name", some (.string r.name)),
    ("mimeType", some (.string r.mimeType)), ("description", r.description?.map .string),
    ("subscribable", some (.bool r.subscribable)), ("content", some r.content.document),
    ("handler", some (Handler.document? r.handler?))]

def Group.document (g : Group) : Json :=
  Json.record [("name", some (.string g.name)), ("description", g.description?.map .string),
    ("operations", some (.ofStrings g.operations))]

/-- The document of a graph, with the fields of object schemas arranged by `arrange`. -/
def Graph.document (g : Graph) : Json :=
  .object [("service", Json.orNull Service.document g.service?),
    ("operations", .array (g.operations.map (·.document arrange))),
    ("prompts", .array (g.prompts.map (·.document arrange))),
    ("resources", .array (g.resources.map Resource.document)),
    ("groups", .array (g.groups.map Group.document))]

end

end ServiceGraph
