import ServiceGraph.Syntax.Basic

/-!
The kinds of shapes: five kinds of descriptors, and shapes that only describe parameters. A descriptor
kind has marker names, under which a shape can extend it; fields to which it gives a meaning; and a
field that identifies a declaration.
-/

namespace ServiceGraph

open Syntax

inductive ShapeKind
  | service
  | operation
  | prompt
  | resource
  | group
  | parameter
deriving Repr, DecidableEq, Inhabited

namespace ShapeKind

/-- The descriptor kinds, in the order in which they are tried. -/
def descriptors : List ShapeKind := [.service, .operation, .prompt, .resource, .group]

/-- The names of the bases that make a shape one of this kind. -/
def markers : ShapeKind → List String
  | .service => ["Server", "Service"]
  | .operation => ["Tool", "Operation"]
  | .prompt => ["Prompt"]
  | .resource => ["Resource"]
  | .group => ["ToolGroup", "CapabilityGroup"]
  | .parameter => []

/-- The fields to which the kind gives a meaning. -/
def recognizedFields : ShapeKind → List String
  | .service => ["name", "version", "description", "auth"]
  | .operation =>
    ["name", "description", "params", "result", "readOnly", "destructive", "idempotent", "openWorld",
     "requiresConfirmation"]
  | .prompt => ["name", "description", "args", "template", "dynamic"]
  | .resource => ["uri", "name", "description", "mimeType", "data", "dynamic", "subscribable"]
  | .group => ["name", "description", "tools"]
  | .parameter => []

/-- The field that identifies a declaration of the kind. -/
def identifyingField? : ShapeKind → Option String
  | .resource => some "uri"
  | .parameter => none
  | _ => some "name"

/-- How messages name the kind. -/
def displayName : ShapeKind → String
  | .service => "service"
  | .operation => "operation"
  | .prompt => "prompt"
  | .resource => "resource"
  | .group => "capability group"
  | .parameter => "parameter shape"

/-- The kind with a marker name. -/
def ofMarker? (name : String) : Option ShapeKind := descriptors.find? (·.markers.contains name)

end ShapeKind

/-- A field together with the name of the shape that declares it. -/
structure MergedField where
  field : Field
  owner : String
deriving Inhabited

namespace MergedField

def name (f : MergedField) : String := f.field.name

def type? (f : MergedField) : Option TypeExpr := f.field.type?

/-- Whether the field has a string literal for its type. -/
def isPinned (f : MergedField) : Bool := (f.type?.bind TypeExpr.string?).isSome

/-- Whether the field has any literal for its type. -/
def isLiteral (f : MergedField) : Bool :=
  match f.type? with
  | some (.literal _ _) => true
  | _ => false

end MergedField

namespace ShapeKind

/-- The field of a name. -/
def fieldNamed? (fields : List MergedField) (name : String) : Option MergedField :=
  fields.find? (·.name == name)

/-- Whether the fields are those of a declaration of the kind, even without a marker: the identifying
ones are string literals, and one that only this kind has is there. -/
def matchesFields (kind : ShapeKind) (fields : List MergedField) : Bool :=
  let has := fun name => (fieldNamed? fields name).isSome
  let pinned := fun name => (fieldNamed? fields name).any MergedField.isPinned
  match kind with
  | .service => pinned "name" && pinned "version"
  | .operation => pinned "name" && (has "params" || has "result")
  | .prompt => pinned "name" && (has "template" || has "args")
  | .resource => pinned "uri"
  | .group => pinned "name" && has "tools"
  | .parameter => false

/-- How many of the kind's fields have a literal type. -/
def specificity (kind : ShapeKind) (fields : List MergedField) : Nat :=
  (fields.filter fun f => kind.recognizedFields.contains f.name && f.isLiteral).length

end ShapeKind

end ServiceGraph
