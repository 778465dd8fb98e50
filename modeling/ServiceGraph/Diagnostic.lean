import ServiceGraph.Source.Span

/-!
Problems found in a source file.

Every problem has one of the closed set of `Code`s, which fixes its severity and its category. Nothing
is ever thrown: a stage returns what it could make of its input together with a list of `Diagnostic`s,
and `Report` gathers the lists of all stages for one file.
-/

namespace ServiceGraph

inductive Severity
  | warning
  | error
deriving Repr, DecidableEq

namespace Severity

def text : Severity → String
  | .warning => "warning"
  | .error => "error"

end Severity

/-- The kind of rule that a problem breaks. -/
inductive Category
  | source
  | structural
  | namingConflict
  | constraint
  | binding
  | groupReference
  | template
  | unsupported
  | lint
deriving Repr, DecidableEq

namespace Category

def text : Category → String
  | .source => "syntax"
  | .structural => "structural"
  | .namingConflict => "namingConflict"
  | .constraint => "constraint"
  | .binding => "binding"
  | .groupReference => "groupReference"
  | .template => "template"
  | .unsupported => "unsupported"
  | .lint => "lint"

end Category

/-- The stable codes of all problems. -/
inductive Code
  | unreadable
  | ambiguousCategory
  | missingField
  | nonLiteralField
  | unknownBase
  | cyclicHeritage
  | duplicateService
  | invalidUri
  | conflictingContent
  | invalidAuth
  | invalidFieldType
  | duplicateName
  | incompatibleConstraint
  | contradictoryBounds
  | malformedTagValue
  | invalidPattern
  | enumMismatch
  | defaultViolation
  | conflictingFlags
  | missingImplementation
  | ambiguousImplementation
  | notCallable
  | arityMismatch
  | unknownGroupMember
  | duplicateGroupMember
  | undeclaredPlaceholder
  | unusedArgument
  | unsupportedConstruct
  | unknownTag
  | unknownField
  | unknownFormat
  | missingService
  | defaultOnRequired
  | ignoredParameters
deriving Repr, DecidableEq

namespace Code

def text : Code → String
  | .unreadable => "E0001"
  | .ambiguousCategory => "E0101"
  | .missingField => "E0102"
  | .nonLiteralField => "E0103"
  | .unknownBase => "E0104"
  | .cyclicHeritage => "E0105"
  | .duplicateService => "E0106"
  | .invalidUri => "E0108"
  | .conflictingContent => "E0109"
  | .invalidAuth => "E0110"
  | .invalidFieldType => "E0111"
  | .duplicateName => "E0201"
  | .incompatibleConstraint => "E0301"
  | .contradictoryBounds => "E0302"
  | .malformedTagValue => "E0303"
  | .invalidPattern => "E0304"
  | .enumMismatch => "E0305"
  | .defaultViolation => "E0306"
  | .conflictingFlags => "E0601"
  | .missingImplementation => "E0401"
  | .ambiguousImplementation => "E0402"
  | .notCallable => "E0403"
  | .arityMismatch => "E0404"
  | .unknownGroupMember => "E0501"
  | .duplicateGroupMember => "W0502"
  | .undeclaredPlaceholder => "E0701"
  | .unusedArgument => "W0702"
  | .unsupportedConstruct => "W0801"
  | .unknownTag => "W0802"
  | .unknownField => "W0803"
  | .unknownFormat => "W0804"
  | .missingService => "W0805"
  | .defaultOnRequired => "W0806"
  | .ignoredParameters => "W0807"

/-- All codes, in the order of their declaration. -/
def all : List Code :=
  [.unreadable, .ambiguousCategory, .missingField, .nonLiteralField, .unknownBase, .cyclicHeritage,
   .duplicateService, .invalidUri, .conflictingContent, .invalidAuth, .invalidFieldType,
   .duplicateName, .incompatibleConstraint, .contradictoryBounds, .malformedTagValue,
   .invalidPattern, .enumMismatch, .defaultViolation, .conflictingFlags, .missingImplementation,
   .ambiguousImplementation, .notCallable, .arityMismatch, .unknownGroupMember,
   .duplicateGroupMember, .undeclaredPlaceholder, .unusedArgument, .unsupportedConstruct,
   .unknownTag, .unknownField, .unknownFormat, .missingService, .defaultOnRequired,
   .ignoredParameters]

/-- The code with a given text. -/
def ofText? (s : String) : Option Code := all.find? (·.text == s)

/-- Codes that start with a `W` are warnings. -/
def severity (c : Code) : Severity :=
  match c with
  | .duplicateGroupMember | .unusedArgument | .unsupportedConstruct | .unknownTag | .unknownField
  | .unknownFormat | .missingService | .defaultOnRequired | .ignoredParameters => .warning
  | _ => .error

def category : Code → Category
  | .unreadable => .source
  | .ambiguousCategory | .missingField | .nonLiteralField | .unknownBase | .cyclicHeritage
  | .duplicateService | .invalidUri | .conflictingContent | .invalidAuth | .invalidFieldType =>
    .structural
  | .duplicateName => .namingConflict
  | .incompatibleConstraint | .contradictoryBounds | .malformedTagValue | .invalidPattern
  | .enumMismatch | .defaultViolation | .conflictingFlags => .constraint
  | .missingImplementation | .ambiguousImplementation | .notCallable | .arityMismatch
  | .ignoredParameters => .binding
  | .unknownGroupMember | .duplicateGroupMember => .groupReference
  | .undeclaredPlaceholder | .unusedArgument => .template
  | .unsupportedConstruct => .unsupported
  | .unknownTag | .unknownField | .unknownFormat | .missingService | .defaultOnRequired => .lint

end Code

/-- One problem: what it is, where it is, and what is said about it. -/
structure Diagnostic where
  code : Code
  span : Span
  message : String
deriving Repr, DecidableEq

namespace Diagnostic

def severity (d : Diagnostic) : Severity := d.code.severity

def isError (d : Diagnostic) : Bool := d.severity == .error

/-- The line that shows a problem of `file`. -/
def display (file : String) (d : Diagnostic) : String :=
  s!"{file}:{d.span.line}:{d.span.column}: {d.severity.text}[{d.code.text}]: {d.message}"

/-- Whether one problem starts before another, by line and then by column. -/
def startsBefore (a b : Diagnostic) : Bool :=
  a.span.line < b.span.line || (a.span.line == b.span.line && a.span.column < b.span.column)

end Diagnostic

/-- Numbers of errors and of warnings. -/
structure Summary where
  errors : Nat
  warnings : Nat
deriving Repr, DecidableEq

namespace Summary

def ofDiagnostics (ds : List Diagnostic) : Summary :=
  let errors := (ds.filter Diagnostic.isError).length
  ⟨errors, ds.length - errors⟩

end Summary

/-- The problems of one file in the order in which they were reported. -/
structure Report where
  file : String
  items : List Diagnostic
deriving Repr

namespace Report

def empty (file : String) : Report := ⟨file, []⟩

/-- Adds one problem. -/
def add (r : Report) (code : Code) (span : Span) (message : String) : Report :=
  { r with items := r.items ++ [⟨code, span, message⟩] }

def hasErrors (r : Report) : Bool := r.items.any Diagnostic.isError

/-- Orders problems by their place; problems at one place keep their order. -/
def inOrder (ds : List Diagnostic) : List Diagnostic :=
  ds.mergeSort (fun a b => !b.startsBefore a)

def sorted (r : Report) : List Diagnostic := inOrder r.items

end Report

end ServiceGraph
