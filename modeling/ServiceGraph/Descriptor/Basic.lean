import ServiceGraph.Schema.Basic
import ServiceGraph.Text.Lines

/-!
The descriptor graph: what a file declares about its service, with every descriptor bound to what
implements it. The descriptors of a kind stand in the order of their declaration.
-/

namespace ServiceGraph

/-- How callers of a service authenticate themselves. -/
inductive Auth
  /-- A fixed key in a request header, perhaps taken from an environment variable. -/
  | apiKey (header : String) (env? : Option String)
  /-- Tokens issued by an authority. -/
  | oauth (issuer : String) (audience? : Option String) (scopes : List String)
deriving Repr, BEq, Inhabited

structure Service where
  name : String
  version : String
  description? : Option String
  auth? : Option Auth
deriving Repr, BEq, Inhabited

/-- The implementation a descriptor is bound to, by its symbol: a name of the top level, or
`default.` and the name of a member of the default export. -/
structure Handler where
  symbol : String
deriving Repr, DecidableEq, Inhabited

namespace Handler

def topLevel (name : String) : Handler := ⟨name⟩

def defaultMember (name : String) : Handler := ⟨"default." ++ name⟩

/-- The name of the member, for a handler in the default export. -/
def defaultMemberName? (h : Handler) : Option String :=
  (Text.stripLead? "default.".toList h.symbol.toList).map String.ofList

end Handler

structure OperationFlags where
  readOnly : Bool
  destructive : Bool
  idempotent : Bool
  openWorld : Bool
  requiresConfirmation : Bool
deriving Repr, DecidableEq, Inhabited

namespace OperationFlags

def none : OperationFlags := ⟨false, false, false, false, false⟩

/-- The flags with the names of their fields. -/
def named (f : OperationFlags) : List (String × Bool) :=
  [("readOnly", f.readOnly), ("destructive", f.destructive), ("idempotent", f.idempotent),
   ("openWorld", f.openWorld), ("requiresConfirmation", f.requiresConfirmation)]

end OperationFlags

structure Operation where
  name : String
  description? : Option String
  /-- An object; one without fields if no parameters are declared. -/
  params : Schema
  result? : Option Schema
  flags : OperationFlags
  handler? : Option Handler
deriving BEq, Inhabited

inductive PromptContent
  /-- A fixed text with placeholders. -/
  | template (text : String)
  /-- Written by the handler. -/
  | dynamic
deriving Repr, DecidableEq, Inhabited

structure Prompt where
  name : String
  description? : Option String
  arguments : List SchemaField
  content : PromptContent
  handler? : Option Handler
deriving BEq, Inhabited

namespace Prompt

def isDynamic (p : Prompt) : Bool := p.content == .dynamic

end Prompt

inductive ResourceContent
  /-- A fixed value. -/
  | static (value : Json)
  /-- Served by the handler. -/
  | dynamic
deriving BEq, Inhabited

structure Resource where
  uri : String
  name : String
  mimeType : String
  description? : Option String
  subscribable : Bool
  content : ResourceContent
  handler? : Option Handler
deriving BEq, Inhabited

namespace Resource

/-- Whether the URI stands for a family of resources: a brace opens in it, and one closes behind. -/
def isTemplateUri (uri : String) : Bool :=
  (uri.toList.dropWhile (· != '\x7b')).contains '\x7d'

def isSchemePart (c : Char) : Bool := c.isAlphanum || c = '+' || c = '.' || c = '-'

/-- Whether a text is a scheme, a colon and something on the same line. -/
def isUri (uri : String) : Bool :=
  match uri.toList with
  | first :: rest =>
    first.isAlpha &&
      match rest.dropWhile isSchemePart with
      | ':' :: next :: _ => next != '\n'
      | _ => false
  | [] => false

def isDynamic (r : Resource) : Bool :=
  match r.content with
  | .dynamic => true
  | .static _ => false

def isTemplate (r : Resource) : Bool := isTemplateUri r.uri

end Resource

/-- A named group of operations. -/
structure Group where
  name : String
  description? : Option String
  operations : List String
deriving Repr, DecidableEq, Inhabited

structure Graph where
  service? : Option Service
  operations : List Operation
  prompts : List Prompt
  resources : List Resource
  groups : List Group
deriving BEq, Inhabited

namespace Graph

def empty : Graph := ⟨none, [], [], [], []⟩

/-- The first operation of a name. -/
def operation? (g : Graph) (name : String) : Option Operation := g.operations.find? (·.name == name)

def prompt? (g : Graph) (name : String) : Option Prompt := g.prompts.find? (·.name == name)

def resource? (g : Graph) (name : String) : Option Resource := g.resources.find? (·.name == name)

def group? (g : Graph) (name : String) : Option Group := g.groups.find? (·.name == name)

/-- The groups that list an operation. -/
def groupsOf (g : Graph) (operation : String) : List Group :=
  g.groups.filter (·.operations.contains operation)

def isEmpty (g : Graph) : Bool :=
  g.service?.isNone && g.operations.isEmpty && g.prompts.isEmpty && g.resources.isEmpty
    && g.groups.isEmpty

end Graph

end ServiceGraph
