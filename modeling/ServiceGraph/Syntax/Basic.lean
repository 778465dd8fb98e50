import ServiceGraph.Source.Span

/-!
The declarations of a service file.

Of a file only what can describe a service is kept: interfaces and type aliases, the values bound at
the top level, and the default export. A type is an expression with a span at every node. What is
written in a way that never describes data keeps the name of its construct, so that a message can
say what was found.
-/

namespace ServiceGraph.Syntax

/-- A doc comment as it is written, delimiters included. -/
structure Doc where
  text : String
  span : Span
deriving Repr, DecidableEq, Inhabited

/-- A literal type. A number keeps its spelling, with the sign and without blanks. -/
inductive Literal
  | string (value : String)
  | number (text : String)
  | bool (value : Bool)
  | null
  | undefined
deriving Repr, DecidableEq, Inhabited

/-- A property or method of an object type, over the types `τ`. -/
structure FieldOf (τ : Type) where
  name : String
  /-- Whether the name is followed by a question mark. -/
  isOptional : Bool
  isReadonly : Bool
  /-- The declared type; a field may be written without one. -/
  type? : Option τ
  doc? : Option Doc
  span : Span
deriving Repr, Inhabited

/-- A member of an object type that is no named property. -/
structure SkippedMember where
  construct : String
  span : Span
deriving Repr, DecidableEq, Inhabited

inductive TypeExpr
  /-- A predefined type such as `string`. -/
  | keyword (span : Span) (name : String)
  | literal (span : Span) (value : Literal)
  /-- A name, perhaps qualified, perhaps with type arguments. -/
  | reference (span : Span) (name : String) (args : List TypeExpr)
  | array (span : Span) (item : TypeExpr)
  | tuple (span : Span) (items : List TypeExpr)
  | object (span : Span) (fields : List (FieldOf TypeExpr)) (skipped : List SkippedMember)
  | union (span : Span) (items : List TypeExpr)
  | intersection (span : Span) (items : List TypeExpr)
  /-- A function or constructor type. -/
  | function (span : Span)
  /-- Any other type, by the name of its construct. -/
  | other (span : Span) (construct : String)
deriving Repr, Inhabited

abbrev Field := FieldOf TypeExpr

namespace TypeExpr

def span : TypeExpr → Span
  | .keyword s _ | .literal s _ | .reference s _ _ | .array s _ | .tuple s _ | .object s _ _
  | .union s _ | .intersection s _ | .function s | .other s _ => s

/-- The part of a qualified name after its last dot. -/
def lastSegment (name : String) : String :=
  String.ofList (name.toList.reverse.takeWhile (· != '.')).reverse

/-- The last segment of a reference's name. -/
def referenceName? : TypeExpr → Option String
  | .reference _ name _ => some (lastSegment name)
  | _ => none

def string? : TypeExpr → Option String
  | .literal _ (.string s) => some s
  | _ => none

def bool? : TypeExpr → Option Bool
  | .literal _ (.bool b) => some b
  | _ => none

end TypeExpr

inductive ShapeForm
  | interface
  | alias
deriving Repr, DecidableEq, Inhabited

/-- An interface or a type alias. -/
structure ShapeDecl where
  name : String
  form : ShapeForm
  /-- The types after `extends`; an alias has none. -/
  heritage : List TypeExpr
  /-- The body of an interface, or what an alias stands for. -/
  type : TypeExpr
  doc? : Option Doc
  isExported : Bool
  span : Span
  nameSpan : Span
deriving Repr, Inhabited

/-- How many parameters a function declares. -/
structure Arity where
  required : Nat
  optional : Nat
  rest : Bool
deriving Repr, DecidableEq, Inhabited

/-- A member of a class or of an object literal, over the values `ν`. -/
structure MemberOf (ν : Type) where
  name : String
  value : ν
  span : Span
deriving Repr, Inhabited

/-- What a name is bound to, as far as the text alone tells. -/
inductive Value
  | function (arity : Arity)
  | classBody (members : List (MemberOf Value))
  | object (members : List (MemberOf Value))
  /-- Another name. -/
  | alias (name : String)
  | imported (source : String)
  /-- A value that is plainly no function. -/
  | literal
  /-- Anything that would have to be run. -/
  | unknown
deriving Repr, Inhabited

abbrev Member := MemberOf Value

/-- A value bound to a name at the top level. -/
structure Binding where
  name : String
  value : Value
  isExported : Bool
  span : Span
deriving Repr, Inhabited

structure DefaultExport where
  value : Value
  span : Span
deriving Repr, Inhabited

inductive Item
  | shape (decl : ShapeDecl)
  | binding (decl : Binding)
  | defaultExport (decl : DefaultExport)
deriving Repr, Inhabited

/-- A place where the text is no well-formed file. -/
structure SyntaxError where
  message : String
  span : Span
deriving Repr, DecidableEq, Inhabited

/-- A file's declarations, in order. -/
structure SourceFile where
  items : List Item
  errors : List SyntaxError
deriving Repr, Inhabited

namespace SourceFile

def shapes (f : SourceFile) : List ShapeDecl :=
  f.items.filterMap fun
    | .shape d => some d
    | _ => none

def bindings (f : SourceFile) : List Binding :=
  f.items.filterMap fun
    | .binding d => some d
    | _ => none

/-- The first default export, if there is one. -/
def defaultExport? (f : SourceFile) : Option DefaultExport :=
  f.items.findSome? fun
    | .defaultExport d => some d
    | _ => none

end SourceFile

end ServiceGraph.Syntax
