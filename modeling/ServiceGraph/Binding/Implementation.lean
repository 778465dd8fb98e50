import ServiceGraph.Descriptor.Basic
import ServiceGraph.Syntax.Basic

/-!
The implementations in a file: its top-level bindings and the members of its default export, of each name
the first one. A binding to another name leads on to that name, so that one implementation may have
several names; it is told apart by the name at which following ends.
-/

namespace ServiceGraph

open Syntax

/-- A place where an implementation may be. -/
structure Candidate where
  /-- A top-level name, or `default.` and the name of a member. -/
  label : String
  span : Span
deriving Repr, DecidableEq, Inhabited

/-- What a candidate refers to in the end. -/
inductive Identity
  | topLevel (name : String)
  | member (name : String)
deriving Repr, DecidableEq, Inhabited

structure Implementation where
  candidate : Candidate
  identity : Identity
  /-- None if the name leads out of the file. -/
  value? : Option Value
deriving Inhabited

/-- Where implementations are looked for. -/
structure Scope where
  bindings : List Binding
  members : List Member
deriving Inhabited

namespace Scope

/-- How many names in a row are followed. -/
def longestChain : Nat := 16

def binding? (bindings : List Binding) (name : String) : Option Binding :=
  bindings.find? (·.name == name)

/-- Follows a name through at most so many bindings. A name bound to itself is an end. -/
def follow (bindings : List Binding) : Nat → String → String × Option Value
  | 0, name => (name, none)
  | steps + 1, name =>
    match binding? bindings name with
    | none => (name, none)
    | some b =>
      match b.value with
      | .alias next => if next = name then (name, some b.value) else follow bindings steps next
      | value => (name, some value)

/-- What a top-level name refers to. -/
def resolve (bindings : List Binding) (name : String) : Identity × Option Value :=
  let (last, value?) := follow bindings longestChain name
  (.topLevel last, value?)

/-- The members of an object or a class. -/
def membersOf : Value → List Member
  | .object members | .classBody members => members
  | _ => []

/-- The members of the default export, which may be given by name. -/
def defaultMembers (bindings : List Binding) (file : SourceFile) : List Member :=
  match file.defaultExport? with
  | none => []
  | some found =>
    match found.value with
    | .alias name => ((resolve bindings name).2.map membersOf).getD []
    | value => membersOf value

def ofFile (file : SourceFile) : Scope := ⟨file.bindings, defaultMembers file.bindings file⟩

/-- The top-level binding of a name as an implementation. -/
def topLevel? (s : Scope) (name : String) : Option Implementation :=
  (binding? s.bindings name).map fun b =>
    let (identity, value?) := resolve s.bindings name
    ⟨⟨(Handler.topLevel name).symbol, b.span⟩, identity, value?⟩

/-- The member of a name as an implementation. -/
def member? (s : Scope) (name : String) : Option Implementation :=
  (s.members.find? (·.name == name)).map fun m =>
    let (identity, value?) := match m.value with
      | .alias target => resolve s.bindings target
      | value => (.member m.name, some value)
    ⟨⟨(Handler.defaultMember m.name).symbol, m.span⟩, identity, value?⟩

/-- The implementations of a name. -/
def lookup (s : Scope) (name : String) : List Implementation :=
  (s.topLevel? name).toList ++ (s.member? name).toList

end Scope

end ServiceGraph
