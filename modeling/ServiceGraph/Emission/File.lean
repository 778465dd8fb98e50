import ServiceGraph.Descriptor.Basic
import ServiceGraph.Emission.Names
import ServiceGraph.Emission.Type

/-!
A graph as a file of declarations: an interface for each descriptor, and a stub for each handler, so that the
file analyses to an equal graph and its descriptors are bound to the same symbols.
-/

namespace ServiceGraph.Emission

/-- The module that the markers are imported from, unless another one is named. -/
def defaultMarkerModule : String := "@decl/markers"

/-- An interface to be written, but for its name. -/
structure Interface where
  stem : String
  marker : String
  description? : Option String
  /-- The lines between the braces. -/
  body : String

/-- A field with the text of its type. -/
def field (name type : String) : String := line 1 (name ++ ": " ++ type ++ ";")

/-- A flag, if it is set. -/
def flag (name : String) (isSet : Bool) : String := if isSet then field name "true" else ""

/-- A field with a text for its type. -/
def textField (name text : String) : String := field name (Text.quote text)

/-! ## Descriptors -/

def auth : Auth → String
  | .apiKey header env? =>
    braced <| ["type: " ++ Text.quote "apiKey", "header: " ++ Text.quote header]
      ++ (env?.map fun env => "env: " ++ Text.quote env).toList
  | .oauth issuer audience? scopes =>
    braced <| ["type: " ++ Text.quote "oauth", "issuer: " ++ Text.quote issuer]
      ++ (audience?.map fun audience => "audience: " ++ Text.quote audience).toList
      ++ (if scopes.isEmpty then [] else ["scopes: " ++ bracketed (scopes.map Text.quote)])

def service (s : Service) : Interface :=
  ⟨baseName s.name ++ "Service", "Server", s.description?,
   textField "name" s.name ++ textField "version" s.version
     ++ ((s.auth?.map fun a => field "auth" (auth a)).getD "")⟩

/-- A field with an object for its type; nothing if the object has no fields. -/
def objectField (name : String) (fields : List SchemaField) : String :=
  if fields.isEmpty then "" else field name (type 1 (.object fields))

/-- The result of an operation, with the tags of its schema. -/
def result (s : Schema) : String := describe 1 none (schemaTags s) ++ field "result" (type 1 s)

def operation (o : Operation) : Interface :=
  ⟨baseName o.name ++ "Tool", "Tool", o.description?,
   textField "name" o.name ++ objectField "params" (o.params.fields?.getD [])
     ++ ((o.result?.map result).getD "")
     ++ String.join (o.flags.named.map fun (name, isSet) => flag name isSet)⟩

def prompt (p : Prompt) : Interface :=
  ⟨baseName p.name ++ "Prompt", "Prompt", p.description?,
   textField "name" p.name ++ objectField "args" p.arguments
     ++ match p.content with
      | .template text => textField "template" text
      | .dynamic => flag "dynamic" true⟩

def resource (r : Resource) : Interface :=
  ⟨baseName r.name ++ "Resource", "Resource", r.description?,
   textField "uri" r.uri ++ textField "name" r.name ++ textField "mimeType" r.mimeType
     ++ flag "subscribable" r.subscribable
     ++ match r.content with
      | .static value => field "data" (literal value)
      | .dynamic => flag "dynamic" true⟩

def group (g : Group) : Interface :=
  ⟨baseName g.name ++ "Group", "ToolGroup", g.description?,
   textField "name" g.name ++ field "tools" (bracketed (g.operations.map Text.quote))⟩

/-- The interfaces of a graph, in the order in which they are written. -/
def interfaces (g : Graph) : List Interface :=
  (g.service?.map service).toList ++ g.operations.map operation ++ g.prompts.map prompt
    ++ g.resources.map resource ++ g.groups.map group

/-- An interface under a name. A description that a comment would change becomes a field. -/
def interfaceText (name : String) (i : Interface) : String :=
  let safe? := i.description?.filter isCommentSafe
  let unsafe? := i.description?.filter (!isCommentSafe ·)
  "\n" ++ describe 0 safe? [] ++ line 0 s!"interface {name} extends {i.marker} \x7b"
    ++ ((unsafe?.map (textField "description")).getD "") ++ i.body ++ line 0 "\x7d"

/-! ## Imports and handlers -/

/-- Whether a whole number occurs in a graph. -/
def mentionsInteger (g : Graph) : Bool :=
  (g.operations.any fun o => usesInteger o.params || o.result?.any usesInteger)
    || g.prompts.any fun p => p.arguments.any (usesInteger ·.schema)

/-- The names that the file imports. -/
def imports (g : Graph) : List String :=
  let importIf := fun (needed : Bool) (name : String) => if needed then [name] else []
  importIf g.service?.isSome "Server" ++ importIf (!g.operations.isEmpty) "Tool"
    ++ importIf (!g.prompts.isEmpty) "Prompt" ++ importIf (!g.resources.isEmpty) "Resource"
    ++ importIf (!g.groups.isEmpty) "ToolGroup" ++ importIf (mentionsInteger g) "Integer"

def importLine (g : Graph) (markerModule : String) : String :=
  if (imports g).isEmpty then ""
  else
    let names := ", ".intercalate (imports g)
    line 0 ("import type \x7b " ++ names ++ " \x7d from " ++ Text.quote markerModule ++ ";")

/-- The handlers of a graph, each once. -/
def handlers (g : Graph) : List Handler :=
  Naming.distinct <| g.operations.filterMap (·.handler?) ++ g.prompts.filterMap (·.handler?)
    ++ g.resources.filterMap (·.handler?)

def signature : String := "(args?: unknown, context?: unknown): unknown;"

/-- The handlers at the top level. -/
def topLevelStubs (symbols : List String) : String :=
  if symbols.isEmpty then ""
  else "\n" ++ String.join (symbols.map fun s => line 0 ("export declare function " ++ s ++ signature))

/-- The handlers in the default export. -/
def memberStubs (names : List String) : String :=
  if names.isEmpty then ""
  else
    "\n" ++ line 0 s!"declare class {handlerClass} \x7b"
      ++ String.join (names.map fun n => line 1 (property n ++ signature)) ++ line 0 "\x7d"
      ++ line 0 s!"export default {handlerClass};"

def stubs (g : Graph) : String :=
  let all := handlers g
  topLevelStubs ((all.filter (·.defaultMemberName?.isNone)).map (·.symbol))
    ++ memberStubs (all.filterMap (·.defaultMemberName?))

/-- The file for a graph. -/
def file (g : Graph) (markerModule : String) : String :=
  let all := interfaces g
  let names := interfaceNames reservedNames (all.map (·.stem))
  line 0 "// Generated by declc. Edit the source declarations instead." ++ importLine g markerModule
    ++ String.join (List.zipWith interfaceText names all) ++ stubs g

end ServiceGraph.Emission
