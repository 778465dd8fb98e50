import ServiceGraph.Naming
import ServiceGraph.Shape.Kind

/-!
Names for the emitted interfaces. A name is made from the descriptor's name and a suffix for its kind,
and gets a number if it is taken; the markers and what else the file declares are taken from the
start.
-/

namespace ServiceGraph.Emission

/-- The class whose members stand for the handlers in a default export. -/
def handlerClass : String := "__handlers"

/-- The names that are taken before the first interface. -/
def reservedNames : List String :=
  ShapeKind.descriptors.flatMap ShapeKind.markers ++ ["Integer", handlerClass]

/-- The name of a descriptor in capitals, made to start with an ASCII letter. -/
def baseName (name : String) : String :=
  let base := Naming.pascalCase name
  if base.toList.head?.any Char.isAlpha then base else "X" ++ base

/-- The first of `stem ++ number`, counted from `number` on, that is not taken; so many are tried. -/
def numbered (stem : String) (taken : List String) : Nat → Nat → String
  | 0, number => stem ++ toString number
  | tries + 1, number =>
    let name := stem ++ toString number
    if taken.contains name then numbered stem taken tries (number + 1) else name

/-- A name that is not taken. Among as many numbers as there are taken names, and one more, one is
free. -/
def freshName (stem : String) (taken : List String) : String :=
  if taken.contains stem then numbered stem taken taken.length 2 else stem

/-- The names of interfaces whose stems are given, in order. -/
def interfaceNames (taken : List String) : List String → List String
  | [] => []
  | stem :: rest =>
    let name := freshName stem taken
    name :: interfaceNames (name :: taken) rest

end ServiceGraph.Emission
