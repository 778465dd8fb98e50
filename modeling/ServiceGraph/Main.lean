import ServiceGraph.CommandLine.Outliner

/-!
The programs. `--outline` as the first argument asks for the outline of a file; with anything else the
compiler runs. Files, streams and the surroundings are touched here and nowhere else.
-/

open ServiceGraph.CommandLine

namespace ServiceGraph.Main

/-- What a failed file operation means. -/
def problemOf : IO.Error → FileProblem
  | .noFileOrDirectory _ _ _ => .missing
  | .inappropriateType _ code _ => if code = 20 then .notFolder else .isFolder
  | e => .other (toString e)

/-- Runs a file operation. -/
def attempt {α : Type} (operation : IO α) : IO (Except FileProblem α) := do
  try return .ok (← operation)
  catch e => return .error (problemOf e)

/-- Reads the text of a file. -/
def readText (path : String) : IO (Except FileProblem String) := do
  return (← attempt (IO.FS.readBinFile path)).bind textOf

/-- Writes what a run leaves behind. -/
def finish (run : Run) : IO UInt32 := do
  (← IO.getStderr).putStr run.err
  (← IO.getStdout).putStr run.out
  return run.status.toUInt32

/-- Carries out a plan. -/
def perform : Plan → IO UInt32
  | .done run => finish run
  | .write path text next => do
    match ← attempt (IO.FS.writeFile path text) with
    | .ok _ => finish (next none)
    | .error p => finish (next (some p))

def compile (arguments : List String) : IO UInt32 := do
  let module? ← IO.getEnv "DECL_MARKER_MODULE"
  match runOf (Command.ofArguments module? arguments) with
  | .error run => finish run
  | .ok o => perform (plan o (← readText o.input))

def outlineFile : List String → IO UInt32
  | [path] => do finish (outline path (← readText path))
  | _ => finish (outlineUsage "decl-parser")

end ServiceGraph.Main

def main : List String → IO UInt32
  | "--outline" :: rest => ServiceGraph.Main.outlineFile rest
  | arguments => ServiceGraph.Main.compile arguments
