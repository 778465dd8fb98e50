/-!
JSON values.

Whole numbers and floating-point numbers are told apart, since `1` and `1.0` are written differently.
The members of an object stand in a list, in the order in which they are written; `Json.ofMembers`
makes an object with sorted keys, in which the last of several equal keys wins.
-/

namespace ServiceGraph

/-- A number of a JSON document. -/
inductive Number
  | integer (value : Int)
  | float (value : Float)
deriving Repr, Inhabited

namespace Number

/-- Equal numbers of the same kind. -/
protected def beq : Number → Number → Bool
  | .integer a, .integer b => a == b
  | .float a, .float b => a == b
  | _, _ => false

instance : BEq Number := ⟨Number.beq⟩

/-- The number as a floating-point number. -/
def toFloat : Number → Float
  | .integer n => if n < 0 then -Float.ofNat n.natAbs else Float.ofNat n.natAbs
  | .float x => x

/-- Whether a number counts as a whole number: floating-point numbers do not, whatever their
value. -/
def isInteger : Number → Bool
  | .integer _ => true
  | .float _ => false

end Number

inductive Json
  | null
  | bool (value : Bool)
  | number (value : Number)
  | string (value : String)
  | array (items : List Json)
  | object (members : List (String × Json))
deriving Inhabited

namespace Json

mutual

/-- Equality, member by member and in order. -/
protected def beq : Json → Json → Bool
  | .null, .null => true
  | .bool a, .bool b => a == b
  | .number a, .number b => a == b
  | .string a, .string b => a == b
  | .array xs, .array ys => beqItems xs ys
  | .object xs, .object ys => beqMembers xs ys
  | _, _ => false

def beqItems : List Json → List Json → Bool
  | [], [] => true
  | x :: xs, y :: ys => Json.beq x y && beqItems xs ys
  | _, _ => false

def beqMembers : List (String × Json) → List (String × Json) → Bool
  | [], [] => true
  | (k, x) :: xs, (l, y) :: ys => k == l && Json.beq x y && beqMembers xs ys
  | _, _ => false

end

instance : BEq Json := ⟨Json.beq⟩

/-- A whole number as a value. -/
def ofNat (n : Nat) : Json := .number (.integer n)

/-- A floating-point number as a value. -/
def ofFloat (x : Float) : Json := .number (.float x)

/-- A list of texts as a value. -/
def ofStrings (xs : List String) : Json := .array (xs.map .string)

/-- Puts a member at its key's place in a list sorted by key; an equal key is replaced. -/
def insertMember (key : String) (value : Json) : List (String × Json) → List (String × Json)
  | [] => [(key, value)]
  | (k, v) :: rest =>
    if key < k then (key, value) :: (k, v) :: rest
    else if key = k then (key, value) :: rest
    else (k, v) :: insertMember key value rest

/-- The object with the given members, sorted by key. -/
def ofMembers (members : List (String × Json)) : Json :=
  .object (members.foldl (fun sorted m => insertMember m.1 m.2 sorted) [])

/-- The object with those of the members that are present. -/
def ofOptional (members : List (String × Option Json)) : Json :=
  ofMembers (members.filterMap fun m => m.2.map (m.1, ·))

/-- The object with those of the members that are present, in the order given. -/
def record (members : List (String × Option Json)) : Json :=
  .object (members.filterMap fun m => m.2.map (m.1, ·))

/-- A member that is written only if it is true. -/
def ofFlag (b : Bool) : Option Json := if b then some (.bool true) else none

/-- The member with a key, of an object. -/
def get? (key : String) : Json → Option Json
  | .object members => members.lookup key
  | _ => none

end Json

end ServiceGraph
