import ServiceGraph.Json.Basic

/-!
Schemas: what parameters, results and arguments look like, apart from any language.

A schema is a finite tree. Leaves and lists carry constraints; what cannot be described keeps the
reason. The fields of an object have different names and stand in the order of their declaration.
-/

namespace ServiceGraph

/-- What a leaf of a schema holds. -/
inductive LeafKind
  | string
  | number
  | integer
  | boolean
  | null
  | any
deriving Repr, DecidableEq, Inhabited

namespace LeafKind

def all : List LeafKind := [.string, .number, .integer, .boolean, .null, .any]

def text : LeafKind → String
  | .string => "string"
  | .number => "number"
  | .integer => "integer"
  | .boolean => "boolean"
  | .null => "null"
  | .any => "any"

def isNumeric : LeafKind → Bool
  | .number | .integer => true
  | _ => false

end LeafKind

/-- Bounds and patterns for the values of a leaf or for a list. -/
structure Constraints where
  minimum? : Option Float
  maximum? : Option Float
  minLength? : Option Nat
  maxLength? : Option Nat
  pattern? : Option String
  format? : Option String
deriving Repr, BEq, Inhabited

namespace Constraints

def none : Constraints := ⟨.none, .none, .none, .none, .none, .none⟩

def isNone : Constraints → Bool
  | ⟨.none, .none, .none, .none, .none, .none⟩ => true
  | _ => false

end Constraints

/-- A named field of an object, over the schemas `σ`. -/
structure SchemaFieldOf (σ : Type) where
  name : String
  schema : σ
  isRequired : Bool
  description? : Option String
  default? : Option Json
  isDeprecated : Bool
deriving Inhabited

inductive Schema
  | leaf (kind : LeafKind) (constraints : Constraints)
  /-- One of several texts, in the order of their declaration. -/
  | enumeration (values : List String)
  | list (items : Schema) (constraints : Constraints)
  | object (fields : List (SchemaFieldOf Schema))
  /-- Something that schemas cannot describe. -/
  | unsupported (reason : String)
deriving Inhabited

abbrev SchemaField := SchemaFieldOf Schema

namespace Schema

/-- A leaf without constraints. -/
def plain (kind : LeafKind) : Schema := .leaf kind .none

/-- A list without constraints. -/
def listOf (items : Schema) : Schema := .list items .none

def emptyObject : Schema := .object []

def fields? : Schema → Option (List SchemaField)
  | .object fields => some fields
  | _ => none

/-- The word that messages use for a schema. -/
def describe : Schema → String
  | .leaf kind _ => kind.text
  | .enumeration _ => "enum"
  | .list _ _ => "list"
  | .object _ => "object"
  | .unsupported _ => "unsupported"

/-- Puts a field in the place of the one with its name, or at the end. -/
def insertField (fields : List SchemaField) (f : SchemaField) : List SchemaField :=
  match fields with
  | [] => [f]
  | g :: rest => if g.name == f.name then f :: rest else g :: insertField rest f

/-- The object with the given fields; of two with one name the later one counts. -/
def ofFields (fields : List SchemaField) : Schema := .object (fields.foldl insertField [])

mutual

/-- Equality. Objects are equal if they have equal fields of the same names, in whatever order. -/
protected def beq : Schema → Schema → Bool
  | .leaf k c, .leaf l d => k == l && c == d
  | .enumeration xs, .enumeration ys => xs == ys
  | .list x c, .list y d => Schema.beq x y && c == d
  | .object xs, .object ys => xs.length == ys.length && includes xs ys
  | .unsupported r, .unsupported s => r == s
  | _, _ => false

/-- Whether each of the fields has its equal among the others. -/
def includes : List (SchemaFieldOf Schema) → List (SchemaFieldOf Schema) → Bool
  | [], _ => true
  | ⟨name, x, isRequired, description?, default?, isDeprecated⟩ :: rest, others =>
    (match others.find? (·.name == name) with
      | some g =>
        Schema.beq x g.schema && isRequired == g.isRequired && description? == g.description?
          && default? == g.default? && isDeprecated == g.isDeprecated
      | none => false)
      && includes rest others

end

instance : BEq Schema := ⟨Schema.beq⟩

instance : BEq SchemaField where
  beq f g :=
    f.name == g.name && f.schema == g.schema && f.isRequired == g.isRequired
      && f.description? == g.description? && f.default? == g.default?
      && f.isDeprecated == g.isDeprecated

end Schema

end ServiceGraph
