import ServiceGraph.Binding.Resolution
import ServiceGraph.Template

/-!
What is wrong with a finished graph.

Each check looks at the whole graph and none stops at its first problem. The findings about tags
and the outcomes of binding are put into words here as well.
-/

namespace ServiceGraph.Conflict

/-! ## Names -/

/-- Reports every entry whose name an earlier one has, with the line of the first of them. -/
def duplicatesAfter (seen : List (String × Nat)) (what : String) :
    List (String × Span) → List Diagnostic
  | [] => []
  | (name, span) :: rest =>
    match seen.lookup name with
    | some line =>
      ⟨.duplicateName, span, s!"duplicate {what} `{name}` (first declared on line {line})"⟩
        :: duplicatesAfter seen what rest
    | none => duplicatesAfter ((name, span.line) :: seen) what rest

/-- The names of descriptors, each with the place of the field that holds it. -/
def named {α : Type} (name : α → String) (field : String) (all : List (Located α)) :
    List (String × Span) :=
  all.map fun l => (name l.value, l.site.field field)

def duplicates (g : LocatedGraph) : List Diagnostic :=
  duplicatesAfter [] "operation name" (named Operation.name "name" g.operations)
    ++ duplicatesAfter [] "prompt name" (named Prompt.name "name" g.prompts)
    ++ duplicatesAfter [] "resource name" (named Resource.name "name" g.resources)
    ++ duplicatesAfter [] "resource uri" (named Resource.uri "uri" g.resources)
    ++ duplicatesAfter [] "capability group name" (named Group.name "name" g.groups)

/-! ## Flags -/

/-- An operation that only reads destroys nothing. -/
def flags (o : Located Operation) : List Diagnostic :=
  if o.value.flags.readOnly && o.value.flags.destructive then
    [⟨.conflictingFlags, o.site.field "readOnly",
      s!"operation `{o.value.name}` cannot be both readOnly and destructive"⟩]
  else []

/-! ## Groups -/

/-- The operations a group lists, each with its place. -/
def entries (g : Located Group) : List (String × Span) :=
  g.value.operations.mapIdx fun i name => (name, (g.site.items[i]?).getD (g.site.field "tools"))

/-- Reports entries that are listed again, and those that name no operation. -/
def membersAfter (known seen : List String) (group : String) : List (String × Span) → List Diagnostic
  | [] => []
  | (name, span) :: rest =>
    if seen.contains name then
      ⟨.duplicateGroupMember, span, s!"`{name}` is listed more than once in group `{group}`"⟩
        :: membersAfter known seen group rest
    else if known.contains name then membersAfter known (name :: seen) group rest
    else
      ⟨.unknownGroupMember, span, s!"group `{group}` references unknown operation `{name}`"⟩
        :: membersAfter known (name :: seen) group rest

def members (known : List String) (g : Located Group) : List Diagnostic :=
  membersAfter known [] g.value.name (entries g)

/-! ## Templates -/

/-- Reports placeholders that are no arguments, and required arguments that are not used. -/
def template (p : Located Prompt) : List Diagnostic :=
  match p.value.content with
  | .dynamic => []
  | .template text =>
    if text.isEmpty then []
    else
      let used := Template.placeholders text
      let name := p.value.name
      let undeclared := used.filter fun u => !p.value.arguments.any (·.name == u)
      let unused := p.value.arguments.filter fun a => a.isRequired && !used.contains a.name
      (undeclared.map fun u =>
        ⟨.undeclaredPlaceholder, p.site.field "template",
          s!"template of prompt `{name}` uses `\x7b\x7b{u}\x7d\x7d` but declares no argument `{u}`"⟩)
        ++ unused.map fun a =>
          ⟨.unusedArgument, p.site.field "args",
            s!"required argument `{a.name}` of prompt `{name}` is never used by its template"⟩

/-! ## Findings and outcomes -/

/-- The diagnostic for a finding. -/
def ofFinding (f : Finding) : Diagnostic :=
  match f.kind with
  | .incompatible tag schema =>
    ⟨.incompatibleConstraint, f.span,
      s!"`@{tag}` does not apply to {schema} `{f.subject}`; the tag was dropped"⟩
  | .contradictory low high =>
    ⟨.contradictoryBounds, f.span, s!"`@{low}` is greater than `@{high}` on `{f.subject}`"⟩
  | .enumMismatch declared tagged =>
    let listed := ", ".intercalate tagged
    let members := ", ".intercalate declared
    ⟨.enumMismatch, f.span,
      s!"`@enum` on `{f.subject}` lists [{listed}] but the type declares [{members}]"⟩
  | .defaultViolation reason =>
    ⟨.defaultViolation, f.span, s!"default of `{f.subject}` is invalid: {reason}"⟩
  | .defaultOnRequired =>
    ⟨.defaultOnRequired, f.span, s!"`{f.subject}` is required, so its `@default` never applies"⟩

/-- A candidate with its line. -/
def describe (c : Candidate) : String := s!"`{c.label}` (line {c.span.line})"

/-- The diagnostic for an outcome, unless all is well. -/
def ofOutcome? (o : Outcome) : Option Diagnostic :=
  let target := s!"{o.kind.displayName} `{o.name}`"
  match o.resolution with
  | .bound _ none => none
  | .bound _ (some c) => some
    ⟨.ignoredParameters, c.span,
      s!"handler `{c.label}` declares no parameters; the arguments of {target} are ignored"⟩
  | .missing tried =>
    let names := ", ".intercalate (tried.map fun t => s!"`{t}`")
    some ⟨.missingImplementation, o.span, s!"no implementation found for {target} (tried {names})"⟩
  | .ambiguous candidates =>
    let names := ", ".intercalate (candidates.map describe)
    some ⟨.ambiguousImplementation, o.span,
      s!"{target} has several distinct implementations: {names}"⟩
  | .notCallable c what => some
    ⟨.notCallable, o.span, s!"{target} resolves to {describe c}, which is {what.text}"⟩
  | .tooManyParameters c required =>
    let demand := s!"requires {required} parameters; a handler takes at most 2 (arguments, context)"
    some ⟨.arityMismatch, o.span, s!"{describe c} for {target} {demand}"⟩

/-! ## The whole graph -/

/-- All that is wrong with a graph, its findings and its outcomes. -/
def all (g : LocatedGraph) (findings : List Finding) (outcomes : List Outcome) : List Diagnostic :=
  duplicates g ++ g.operations.flatMap flags
    ++ g.groups.flatMap (members (g.operations.map (·.value.name)))
    ++ g.prompts.flatMap template ++ findings.map ofFinding ++ outcomes.filterMap ofOutcome?

end ServiceGraph.Conflict
