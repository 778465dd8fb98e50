import ServiceGraph.Binding.Implementation
import ServiceGraph.Descriptor.Site
import ServiceGraph.Naming

/-!
Binding: which implementation belongs to a descriptor.

Every operation needs one, and every prompt and resource that is dynamic. It is looked for under all
spellings of the descriptor's name. What is found several times counts once; different
implementations are never preferred to each other, so that a descriptor with several of them stays
unbound.
-/

namespace ServiceGraph

open Syntax

/-- A value that cannot be called. -/
inductive NotCallable
  | classBody
  | object
  | literal
deriving Repr, DecidableEq, Inhabited

namespace NotCallable

/-- How messages name the value. -/
def text : NotCallable → String
  | .classBody => "a class"
  | .object => "an object"
  | .literal => "a literal value"

end NotCallable

inductive Resolution
  /-- Perhaps to something that takes no parameters although there are some to pass. -/
  | bound (handler : Handler) (ignoring? : Option Candidate)
  | missing (tried : List String)
  | ambiguous (candidates : List Candidate)
  | notCallable (candidate : Candidate) (what : NotCallable)
  | tooManyParameters (candidate : Candidate) (required : Nat)
deriving Repr, DecidableEq, Inhabited

namespace Resolution

def handler? : Resolution → Option Handler
  | .bound handler _ => some handler
  | _ => none

def isBound (r : Resolution) : Bool := r.handler?.isSome

/-- A handler may require its arguments and a context. -/
def mostParameters : Nat := 2

/-- The resolution to a single implementation. What cannot be told from the text is bound. -/
def ofImplementation (i : Implementation) (takesParameters : Bool) : Resolution :=
  let handler : Handler := ⟨i.candidate.label⟩
  match i.value? with
  | some (.function arity) =>
    if mostParameters < arity.required then .tooManyParameters i.candidate arity.required
    else
      let declaresNone := arity.required + arity.optional == 0 && !arity.rest
      .bound handler (if declaresNone && takesParameters then some i.candidate else none)
  | some (.classBody _) => .notCallable i.candidate .classBody
  | some (.object _) => .notCallable i.candidate .object
  | some .literal => .notCallable i.candidate .literal
  | _ => .bound handler none

/-- The implementations that differ from those before them. -/
def differing (found : List Implementation) : List Implementation :=
  found.foldl
    (fun kept i => if kept.any (·.identity == i.identity) then kept else kept ++ [i]) []

/-- Resolves the name of a descriptor. -/
def ofName (scope : Scope) (name : String) (takesParameters : Bool) : Resolution :=
  let tried := Naming.variants name
  match differing (tried.flatMap scope.lookup) with
  | [] => .missing tried
  | [single] => ofImplementation single takesParameters
  | several => .ambiguous (several.map (·.candidate))

end Resolution

/-- How one descriptor was bound. -/
structure Outcome where
  kind : ShapeKind
  name : String
  /-- The place of the declaration. -/
  span : Span
  resolution : Resolution
deriving Repr, DecidableEq, Inhabited

namespace Outcome

def isBound (o : Outcome) : Bool := o.resolution.isBound

end Outcome

namespace Scope

def bindOperation (s : Scope) (o : Located Operation) : Located Operation × Outcome :=
  let takesParameters := (o.value.params.fields?.map (!·.isEmpty)).getD false
  let r := Resolution.ofName s o.value.name takesParameters
  ({ o with value := { o.value with handler? := r.handler? } },
    ⟨.operation, o.value.name, o.site.span, r⟩)

/-- Binds a prompt if it is dynamic. -/
def bindPrompt (s : Scope) (p : Located Prompt) : Located Prompt × Option Outcome :=
  if p.value.isDynamic then
    let r := Resolution.ofName s p.value.name (!p.value.arguments.isEmpty)
    ({ p with value := { p.value with handler? := r.handler? } },
      some ⟨.prompt, p.value.name, p.site.span, r⟩)
  else (p, none)

/-- Binds a resource if it is dynamic. Only one with variables in its URI has something to pass. -/
def bindResource (s : Scope) (d : Located Resource) : Located Resource × Option Outcome :=
  if d.value.isDynamic then
    let r := Resolution.ofName s d.value.name d.value.isTemplate
    ({ d with value := { d.value with handler? := r.handler? } },
      some ⟨.resource, d.value.name, d.site.span, r⟩)
  else (d, none)

/-- Binds the descriptors of a graph, and tells how each of them was bound. -/
def bind (s : Scope) (g : LocatedGraph) : LocatedGraph × List Outcome :=
  let operations := g.operations.map s.bindOperation
  let prompts := g.prompts.map s.bindPrompt
  let resources := g.resources.map s.bindResource
  ({ g with
      operations := operations.map (·.1), prompts := prompts.map (·.1),
      resources := resources.map (·.1) },
    operations.map (·.2) ++ prompts.filterMap (·.2) ++ resources.filterMap (·.2))

end Scope

end ServiceGraph
