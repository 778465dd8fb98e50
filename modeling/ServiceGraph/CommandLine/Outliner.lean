import ServiceGraph.CommandLine.Compiler
import ServiceGraph.Syntax.Reader.File

/-!
The outline of a file as a command. It takes one file and nothing else, and fails if the file has syntax
errors, after showing what could be read.
-/

namespace ServiceGraph.CommandLine

/-- What is said to a call under the name `program` with the wrong number of arguments. -/
def outlineUsage (program : String) : Run :=
  ⟨1, "", ended
    [s!"Usage: {program} <file.ts>", "", "Parse a decl source file and dump its declaration AST"]⟩

/-- The run for what reading a file gave. -/
def outline (path : String) : Except FileProblem String → Run
  | .error p => ⟨1, "", ended [s!"Error reading file '{path}': {p.message}"]⟩
  | .ok text =>
    let file := Syntax.SourceFile.read text
    ⟨if file.errors.isEmpty then 0 else 2, ended [Syntax.Outline.file file], ""⟩

namespace Folder

/-- Outlines a file of a folder. -/
def outline (f : Folder) (program : String) : List String → Run
  | [path] => CommandLine.outline path (f.read path)
  | _ => outlineUsage program

end Folder

end ServiceGraph.CommandLine
