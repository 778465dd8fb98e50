import ServiceGraph.Analysis
import ServiceGraph.CommandLine.Arguments
import ServiceGraph.CommandLine.Files
import ServiceGraph.Descriptor.Document
import ServiceGraph.Json.Writer
import ServiceGraph.Syntax.Outline

/-!
The compiler as a command: it analyses a file, tells what is wrong with it, shows its graph, and writes
the graph back as declarations if it is asked to and the file has no errors.

A run is planned from the text of the file alone. If something is to be written, the plan goes on with
how that went; so nothing here touches a file.
-/

namespace ServiceGraph.CommandLine

/-- The rest of a run. -/
inductive Plan
  | done (run : Run)
  /-- Write a file, then go on with what went wrong, if anything did. -/
  | write (path text : String) (next : Option FileProblem → Run)

/-! ## What is shown -/

/-- Lines under a heading; without lines there is no heading. -/
def listing (heading : String) (lines : List String) : List String :=
  if lines.isEmpty then [] else heading :: lines.map ("  " ++ ·)

def operationLine (o : Operation) : String :=
  let count := (o.params.fields?.getD []).length
  let handler := (o.handler?.map (·.symbol)).getD "-"
  s!"{o.name} ({count} params) -> {handler}"

def promptLine (p : Prompt) : String :=
  let kind := if p.isDynamic then "dynamic" else "template"
  s!"{p.name} ({kind}, {p.arguments.length} args)"

def resourceLine (r : Resource) : String := s!"{r.name} {r.uri} [{r.mimeType}]"

def groupLine (g : Group) : String := g.name ++ ": " ++ ", ".intercalate g.operations

def serviceLine : Option Service → String
  | some s => s!"service {s.name} {s.version}"
  | none => "(no service)"

/-- The lines that show a graph. -/
def graphLines (g : Graph) : List String :=
  serviceLine g.service? :: listing "operations:" (g.operations.map operationLine)
    ++ listing "prompts:" (g.prompts.map promptLine)
    ++ listing "resources:" (g.resources.map resourceLine)
    ++ listing "groups:" (g.groups.map groupLine)

/-- Lines as a text, each of them ended. -/
def ended (lines : List String) : String := String.join (lines.map (· ++ "\n"))

/-- What is shown of a file. -/
def shown (o : Options) (a : Analysis) : String :=
  if o.showsOutline then ended [Syntax.Outline.file a.file]
  else
    match o.format with
    | .human => ended (graphLines a.graph)
    | .json => ended [(a.graph.document Schema.byName).indented 0]

/-- What is said about the problems of a file. -/
def problemText (o : Options) (a : Analysis) : String :=
  let ds := a.diagnostics
  if ds.isEmpty then ""
  else
    let summary := a.summary
    ended (ds.map (Diagnostic.display o.input ·)
      ++ [s!"{summary.errors} error(s), {summary.warnings} warning(s)"])

/-! ## Runs -/

/-- The run for an analysed file. -/
def report (o : Options) (a : Analysis) : Run :=
  let fails := a.hasErrors || (o.deniesWarnings && 0 < a.summary.warnings)
  ⟨if fails then 1 else 0, shown o a, problemText o a⟩

/-- A run that ends before anything is shown. -/
def failed (o : Options) (problem : String) : Run :=
  ⟨1, "", ended [s!"Compilation failed: compiling {o.input}: {problem}"]⟩

/-- What is said of a file that cannot be read. -/
def readFailure (o : Options) (p : FileProblem) : String :=
  match p with
  | .missing | .notFolder => s!"File not found: {o.input}"
  | _ => s!"I/O error: {p.message}: {p.message}"

/-- What is said of a file that cannot be written. -/
def writeFailure (path : String) (p : FileProblem) : String :=
  s!"Failed to write declarations to {path}: {p.message}: {p.message}"

/-- Plans a run from what reading the file gave. -/
def plan (o : Options) (source : Except FileProblem String) : Plan :=
  match source with
  | .error p => .done (failed o (readFailure o p))
  | .ok text =>
    let a := Analysis.ofText text
    match o.emitTo? with
    | none => .done (report o a)
    | some path =>
      if a.hasErrors then .done (report o a)
      else
        .write path (Emission.file a.graph o.markerModule) fun
          | some p => failed o (writeFailure path p)
          | none => report o a

/-- How the compiler is called. -/
def usage : String := "Usage: declc [OPTIONS] <FILE>"

/-- The run for arguments that ask for nothing to be done. -/
def runOf : Except UsageProblem Command → Except Run Options
  | .ok (.compile o) => .ok o
  | .ok .help => .error ⟨0, ended [usage], ""⟩
  | .ok .version => .error ⟨0, ended ["declc 0.1.0"], ""⟩
  | .error p =>
    .error ⟨2, "", ended ["error: " ++ p.message, "", usage, "", "For more information, try '--help'."]⟩

namespace Folder

/-- Runs the compiler inside a folder, with the marker module of the surroundings. -/
def compile (f : Folder) (module? : Option String) (arguments : List String) : Run × Folder :=
  match runOf (Command.ofArguments module? arguments) with
  | .error run => (run, f)
  | .ok o =>
    match plan o (f.read o.input) with
    | .done run => (run, f)
    | .write path text next =>
      match f.write path text with
      | .ok after => (next none, after)
      | .error p => (next (some p), f)

end Folder

end ServiceGraph.CommandLine
