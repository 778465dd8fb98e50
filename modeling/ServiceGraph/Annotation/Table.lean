import ServiceGraph.Annotation.Comment

/-!
The annotations of a file, by the shape that declares a field and the field's path in it.

A path joins field names by dots and has `[]` for the items of a list, as in `params.tags[].name`. The
declaration itself is at the empty path. Inherited fields are found under the shape that declares
them.
-/

namespace ServiceGraph

open Syntax

/-- Annotations by shape name and path. -/
structure AnnotationTable where
  entries : List ((String × String) × Annotation)
deriving Inhabited

namespace AnnotationTable

def empty : AnnotationTable := ⟨[]⟩

/-- Adds an entry; one with the same key is replaced. -/
def insert (t : AnnotationTable) (shape path : String) (a : Annotation) : AnnotationTable :=
  ⟨((shape, path), a) :: t.entries.filter (fun e => e.1 != (shape, path))⟩

def get? (t : AnnotationTable) (shape path : String) : Option Annotation :=
  t.entries.lookup (shape, path)

/-- The annotation of a declaration itself. -/
def declaration? (t : AnnotationTable) (shape : String) : Option Annotation := t.get? shape ""

def size (t : AnnotationTable) : Nat := t.entries.length

end AnnotationTable

namespace TypePath

/-- The path of a field below another path. -/
def field (parent name : String) : String :=
  if parent.isEmpty then name else parent ++ "." ++ name

/-- The path of a list's items. -/
def item (path : String) : String := path ++ "[]"

/-- The names under which a list type is known. -/
def isListName (name : String) : Bool := name = "Array" || name = "ReadonlyArray"

end TypePath

namespace Annotation

mutual

/-- The doc comments inside a type, with their paths, in the order in which they are written. -/
def docsOfType (path : String) : TypeExpr → List (String × Doc)
  | .object _ fields _ => docsOfFields path fields
  | .array _ item => docsOfType (TypePath.item path) item
  | .reference _ name args => if TypePath.isListName name then docsOfTypes (TypePath.item path) args else []
  | .union _ items => docsOfTypes path items
  | .intersection _ items => docsOfTypes path items
  | _ => []

def docsOfTypes (path : String) : List TypeExpr → List (String × Doc)
  | [] => []
  | t :: rest => docsOfType path t ++ docsOfTypes path rest

def docsOfFields (path : String) : List (FieldOf TypeExpr) → List (String × Doc)
  | [] => []
  | f :: rest => docsOfField path f ++ docsOfFields path rest

def docsOfField (path : String) : FieldOf TypeExpr → List (String × Doc)
  | ⟨name, _, _, type?, doc?, _⟩ =>
    doc?.toList.map (TypePath.field path name, ·) ++ docsOfOption (TypePath.field path name) type?

def docsOfOption (path : String) : Option TypeExpr → List (String × Doc)
  | some t => docsOfType path t
  | none => []

end

/-- The doc comments of a shape, with their paths. -/
def docsOfShape (d : ShapeDecl) : List (String × Doc) :=
  d.doc?.toList.map ("", ·) ++ docsOfType "" d.type

/-- Reads documented places into a table. -/
def enter (shape : String) (state : AnnotationTable × List Diagnostic) (entry : String × Doc) :
    AnnotationTable × List Diagnostic :=
  let (a, problems) := ofDoc entry.2
  (state.1.insert shape entry.1 a, state.2 ++ problems)

/-- The annotations of a list of shapes, and what is wrong with their comments. -/
def ofShapes (shapes : List ShapeDecl) : AnnotationTable × List Diagnostic :=
  shapes.foldl (fun state d => (docsOfShape d).foldl (enter d.name) state) (.empty, [])

end Annotation

end ServiceGraph
