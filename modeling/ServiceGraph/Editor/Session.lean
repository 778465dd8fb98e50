import ServiceGraph.Analysis
import ServiceGraph.Editor.Word

/-!
A session with an editor: the open documents, each with the analysis of exactly its text.

A document's state depends only on the last text that was sent for it. Whatever changes a document
publishes its problems; closing it publishes that there are none.
-/

namespace ServiceGraph.Editor

/-! ## Documents -/

structure Document where
  /-- What the analysed file is called where its problems are listed. -/
  path : String
  text : String
  analysis : Analysis
deriving Inhabited

namespace Document

def ofText (path text : String) : Document := ⟨path, text, Analysis.ofText text⟩

end Document

/-- A problem as an editor shows it. -/
structure Problem where
  range : Range
  severity : Severity
  code : Code
  message : String
deriving Repr, DecidableEq

namespace Problem

/-- A problem is at least one byte wide, so that there is something to show. -/
def ofDiagnostic (text : List Char) (d : Diagnostic) : Problem :=
  let stop := if d.span.stop ≤ d.span.start then d.span.start + 1 else d.span.stop
  ⟨⟨.ofOffset text d.span.start, .ofOffset text stop⟩, d.severity, d.code, d.message⟩

end Problem

/-- The problems of a document, in the order of their places. -/
def Document.problems (d : Document) : List Problem :=
  d.analysis.diagnostics.map (Problem.ofDiagnostic d.text.toList)

/-! ## Help -/

/-- The names that declarations are built with, and what each of them stands for. -/
def vocabulary : List (String × String) :=
  [("Server", "Service metadata: name, version, auth"),
   ("Tool", "Callable operation: name, params, result, behavior flags"),
   ("Prompt", "Prompt template: name, args, template or dynamic"),
   ("Resource", "Addressable data: uri, name, mimeType, data or dynamic"),
   ("ToolGroup", "Capability group: name, tools"),
   ("Integer", "Whole-number parameter type")]

/-- What is said about a descriptor. -/
def describeOperation (o : Operation) : String :=
  let names := (o.params.fields?.getD []).map (·.name)
  let params := if names.isEmpty then "none" else ", ".intercalate names
  let handler := (o.handler?.map (·.symbol)).getD "unbound"
  s!"**operation** `{o.name}`\n\nparams: {params}\n\nhandler: `{handler}`"

def describePrompt (p : Prompt) : String :=
  let names := ", ".intercalate (p.arguments.map (·.name))
  s!"**prompt** `{p.name}`\n\nargs: {names}"

def describeResource (r : Resource) : String :=
  s!"**resource** `{r.name}`\n\n`{r.uri}` ({r.mimeType})"

def describeGroup (g : Group) : String :=
  let names := ", ".intercalate g.operations
  s!"**group** `{g.name}`\n\ntools: {names}"

/-- What is said about the first descriptor of a name. -/
def describeName (g : Graph) (name : String) : Option String :=
  ((g.operation? name).map describeOperation) <|> ((g.prompt? name).map describePrompt)
    <|> ((g.resource? name).map describeResource) <|> ((g.group? name).map describeGroup)

/-- What is said about a word. -/
def describeWord (g : Graph) (w : Word) : Option String :=
  let name := String.ofList w.text
  if w.followsAt then (TagSet.knownTags.lookup name).map fun help => s!"`@{name}`: {help}"
  else
    ((vocabulary.lookup name).map fun help => s!"`{name}`: {help}") <|> describeName g name

structure Hover where
  text : String
  range : Range
deriving Repr, DecidableEq

def Document.hover (d : Document) (p : Position) : Option Hover := do
  let word ← wordAt? d.text.toList p
  let text ← describeWord d.analysis.graph word
  return ⟨text, word.range⟩

inductive CompletionKind
  | tag
  | name
deriving Repr, DecidableEq

/-- Something to complete a word with. -/
structure Completion where
  kind : CompletionKind
  label : String
  help : String
deriving Repr, DecidableEq

def completions (kind : CompletionKind) (entries : List (String × String)) : List Completion :=
  entries.map fun (label, help) => ⟨kind, label, help⟩

/-- The completions at a position; none where it cannot be told which. -/
def Document.completions? (d : Document) (p : Position) : Option (List Completion) :=
  match tagPositionAt d.text.toList p with
  | .inside => some (completions .tag TagSet.knownTags)
  | .outside => some (completions .name vocabulary)
  | .undecided => none

/-! ## The session -/

/-- The open documents, by address. How a path is read off an address is up to the editor's side. -/
structure Session where
  pathOf : String → String
  documents : List (String × Document)
deriving Inhabited

namespace Session

def empty (pathOf : String → String := id) : Session := ⟨pathOf, []⟩

def get? (s : Session) (address : String) : Option Document := s.documents.lookup address

def erase (s : Session) (address : String) : Session :=
  { s with documents := s.documents.filter (·.1 != address) }

def insert (s : Session) (address : String) (d : Document) : Session :=
  { s with documents := (address, d) :: (s.erase address).documents }

end Session

/-- What an editor sends. -/
inductive Request
  | start
  | started
  | stop
  | openDocument (address text : String)
  /-- Whole texts, of which the last one counts. -/
  | change (address : String) (texts : List String)
  | close (address : String)
  | hover (address : String) (position : Position)
  | complete (address : String) (position : Position)
deriving Repr

/-- What is sent without being asked for. -/
inductive Notification
  | ready
  | problems (address : String) (all : List Problem)
deriving Repr

/-- The answer to a request. -/
inductive Answer
  | nothing
  | capabilities
  | hover (h : Hover)
  | completions (all : List Completion)
  /-- The request could not be answered; the session goes on. -/
  | failure
deriving Repr

structure Reply where
  answer : Answer
  notifications : List Notification
deriving Repr

namespace Session

/-- Replaces a document, and publishes its problems. -/
def update (s : Session) (address text : String) : Session × Reply :=
  let d := Document.ofText (s.pathOf address) text
  (s.insert address d, ⟨.nothing, [.problems address d.problems]⟩)

/-- Handles a request. -/
def handle (s : Session) : Request → Session × Reply
  | .start => (s, ⟨.capabilities, []⟩)
  | .started => (s, ⟨.nothing, [.ready]⟩)
  | .stop => (s, ⟨.nothing, []⟩)
  | .openDocument address text => s.update address text
  | .change address texts =>
    match texts.getLast? with
    | some text => s.update address text
    | none => (s, ⟨.nothing, []⟩)
  | .close address => (s.erase address, ⟨.nothing, [.problems address []]⟩)
  | .hover address p =>
    match (s.get? address).bind (·.hover p) with
    | some h => (s, ⟨.hover h, []⟩)
    | none => (s, ⟨.nothing, []⟩)
  | .complete address p =>
    match s.get? address with
    | none => (s, ⟨.nothing, []⟩)
    | some d =>
      match d.completions? p with
      | some all => (s, ⟨.completions all, []⟩)
      | none => (s, ⟨.failure, []⟩)

end Session

end ServiceGraph.Editor
