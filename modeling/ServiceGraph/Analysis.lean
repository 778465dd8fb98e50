import ServiceGraph.Annotation.Table
import ServiceGraph.Conflict
import ServiceGraph.Descriptor.Draft
import ServiceGraph.Syntax.Reader.File

/-!
The analysis of a service file: from its text to the bound graph and everything that is wrong with
it. Each step takes what the steps before it made; a step that finds problems makes what it can of its input,
so the later ones always run.
-/

namespace ServiceGraph

open Syntax

/-- The results of the steps, each with what it found wrong. -/
structure Analysis where
  file : SourceFile
  catalog : ShapeCatalog
  annotations : AnnotationTable
  draft : Draft
  /-- The descriptors, bound. -/
  contents : LocatedGraph
  outcomes : List Outcome
  readProblems : List Diagnostic
  shapeProblems : List Diagnostic
  commentProblems : List Diagnostic
  typeProblems : List Diagnostic
  conflicts : List Diagnostic
deriving Inhabited

namespace Analysis

def ofFile (file : SourceFile) : Analysis :=
  let readProblems := file.errors.map fun e => (⟨.unreadable, e.span, e.message⟩ : Diagnostic)
  let (catalog, shapeProblems) := ShapeCatalog.ofFile file
  let (annotations, commentProblems) := Annotation.ofShapes (catalog.shapes.map (·.decl))
  let (draft, typeProblems) := Draft.ofCatalog catalog annotations
  let (contents, outcomes) := (Scope.ofFile file).bind draft.contents
  { file, catalog, annotations, draft, contents, outcomes, readProblems, shapeProblems,
    commentProblems, typeProblems, conflicts := Conflict.all contents draft.findings outcomes }

/-- Analyses a text. -/
def ofText (source : String) : Analysis := ofFile (SourceFile.read source)

def graph (a : Analysis) : Graph := a.contents.graph

/-- All problems in the order in which they were found. -/
def reported (a : Analysis) : List Diagnostic :=
  a.readProblems ++ a.shapeProblems ++ a.commentProblems ++ a.typeProblems ++ a.conflicts

/-- All problems in the order of their places. -/
def diagnostics (a : Analysis) : List Diagnostic := Report.inOrder a.reported

def summary (a : Analysis) : Summary := Summary.ofDiagnostics a.reported

def hasErrors (a : Analysis) : Bool := a.reported.any Diagnostic.isError

end Analysis

end ServiceGraph
