import ServiceGraph.Syntax.Basic
import ServiceGraph.Text.Escaped

/-!
The outline of a file: one line for every node, two blanks deeper than the node that holds it. It shows
names, literals and doc comments, and no places except those of errors.
-/

namespace ServiceGraph.Syntax.Outline

/-- A line of an outline. -/
def line (level : Nat) (text : String) : String :=
  String.ofList (List.replicate (2 * level) ' ') ++ text ++ "\n"

def literal : Literal → String
  | .string s => s!"String({Text.escaped s})"
  | .number s => s!"Number({Text.escaped s})"
  | .bool b => s!"Bool({b})"
  | .null => "Null"
  | .undefined => "Undefined"

def doc (level : Nat) : Option Doc → String
  | some d => line level s!"Doc: {Text.escaped d.text}"
  | none => ""

def skipped (level : Nat) (members : List SkippedMember) : String :=
  String.join (members.map fun m => line level s!"(skipped {m.construct})")

mutual

def type (level : Nat) : TypeExpr → String
  | .keyword _ name => line level s!"Keyword: {name}"
  | .literal _ value => line level s!"Literal: {literal value}"
  | .reference _ name args => line level s!"Ref: {name}" ++ types (level + 1) args
  | .array _ item => line level "ArrayType:" ++ type (level + 1) item
  | .tuple _ items => line level "Tuple:" ++ types (level + 1) items
  | .object _ fs members =>
    line level "ObjectType:" ++ fields (level + 1) fs ++ skipped (level + 1) members
  | .union _ items => line level "Union:" ++ types (level + 1) items
  | .intersection _ items => line level "Intersection:" ++ types (level + 1) items
  | .function _ => line level "FunctionType"
  | .other _ construct => line level s!"Other: {construct}"

def types (level : Nat) : List TypeExpr → String
  | [] => ""
  | t :: rest => type level t ++ types level rest

def fields (level : Nat) : List (FieldOf TypeExpr) → String
  | [] => ""
  | f :: rest => field level f ++ fields level rest

def field (level : Nat) : FieldOf TypeExpr → String
  | ⟨name, isOptional, _, type?, doc?, _⟩ =>
    line level (name ++ (if isOptional then "?" else "") ++ ":") ++ doc (level + 1) doc?
      ++ fieldType (level + 1) type?

def fieldType (level : Nat) : Option TypeExpr → String
  | some t => type level t
  | none => line level "(untyped)"

end

mutual

def value (level : Nat) : Value → String
  | .function arity =>
    let rest := if arity.rest then " +rest" else ""
    line level s!"Function({arity.required} required, {arity.optional} optional{rest})"
  | .classBody found => line level "Class:" ++ members (level + 1) found
  | .object found => line level "Object:" ++ members (level + 1) found
  | .alias name => line level s!"Alias: {name}"
  | .imported source => line level s!"Import from {Text.escaped source}"
  | .literal => line level "Literal"
  | .unknown => line level "Opaque"

def members (level : Nat) : List (MemberOf Value) → String
  | [] => ""
  | m :: rest => member level m ++ members level rest

def member (level : Nat) : MemberOf Value → String
  | ⟨name, v, _⟩ => line level (name ++ ":") ++ value (level + 1) v

end

/-- The word in front of an exported declaration. -/
def exportWord (isExported : Bool) : String := if isExported then "export " else ""

def item : Item → String
  | .shape d =>
    let form := match d.form with
      | .interface => "Interface"
      | .alias => "TypeAlias"
    let heritage := if d.heritage.isEmpty then "" else line 2 "Extends:" ++ types 3 d.heritage
    line 1 s!"{exportWord d.isExported}{form}: {d.name}" ++ doc 2 d.doc? ++ heritage ++ type 2 d.type
  | .binding d => line 1 s!"{exportWord d.isExported}Binding: {d.name}" ++ value 2 d.value
  | .defaultExport d => line 1 "DefaultExport:" ++ value 2 d.value

def error (e : SyntaxError) : String :=
  line 1 s!"SyntaxError @{e.span.line}:{e.span.column}: {e.message}"

/-- The outline of a whole file. -/
def file (f : SourceFile) : String :=
  line 0 "SourceFile:" ++ String.join (f.items.map item) ++ String.join (f.errors.map error)

end ServiceGraph.Syntax.Outline
