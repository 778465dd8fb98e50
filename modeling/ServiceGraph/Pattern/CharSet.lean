import ServiceGraph.Text.BinaryProperties
import ServiceGraph.Text.Case
import ServiceGraph.Text.Categories
import ServiceGraph.Text.Property
import ServiceGraph.Text.Scripts

/-!
Sets of characters, built from intervals and tables by the set operations and by closing a set under
change of case. Classes are looked up by their names in the Unicode standard, which may be written with
any case, blanks, hyphens and underscores.
-/

namespace ServiceGraph.Pattern

open Text

inductive CharSet
  | empty
  | interval (low high : Nat)
  | table (runs : Runs)
  | complement (a : CharSet)
  | union (a b : CharSet)
  | intersection (a b : CharSet)
  | difference (a b : CharSet)
  | symmetricDifference (a b : CharSet)
  /-- All characters that differ from one of the set in case only. -/
  | anyCase (a : CharSet)
deriving Repr, Inhabited

namespace CharSet

/-- The code points whose image in a case table is `n`. -/
def preimages (n : Nat) : List Nat :=
  Table.folding.filterMap fun s =>
    if s.image ≤ n ∧ s.imageOf? (s.first + (n - s.image)) = some n then some (s.first + (n - s.image))
    else none

/-- The characters that differ from `c` in case only, `c` among them. -/
def caseVariants (c : Char) : List Char :=
  let folded := foldChar c
  folded :: (preimages folded.toNat).map Char.ofNat

/-- Whether a character belongs to a set. -/
def contains : CharSet → Char → Bool
  | .empty, _ => false
  | .interval low high, c => low ≤ c.toNat && c.toNat ≤ high
  | .table runs, c => runs.contains c
  | .complement a, c => !a.contains c
  | .union a b, c => a.contains c || b.contains c
  | .intersection a b, c => a.contains c && b.contains c
  | .difference a b, c => a.contains c && !b.contains c
  | .symmetricDifference a b, c => a.contains c != b.contains c
  | .anyCase a, c => (caseVariants c).any a.contains

def single (c : Char) : CharSet := .interval c.toNat c.toNat

def ofChars (cs : List Char) : CharSet := cs.foldr (fun c s => .union (single c) s) .empty

def unions (sets : List CharSet) : CharSet := sets.foldr .union .empty

/-- All characters. -/
def all : CharSet := .complement .empty

/-! ## Named classes -/

/-- A name without case, blanks, hyphens and underscores, and without an `is` at its very start. -/
def canonicalName (name : List Char) : String :=
  let (hasIs, rest) := match name with
    | a :: b :: rest => if a.toLower = 'i' ∧ b.toLower = 's' then (true, rest) else (false, name)
    | _ => (false, name)
  let bare := rest.filter (fun c => c.toNat < 128 && c != ' ' && c != '-' && c != '_')
  let key := String.ofList (bare.map Char.toLower)
  if hasIs && key == "c" then "isc" else key

/-- The set with a name in a table. -/
def inTable? (table : List (List String × String)) (name : String) : Option CharSet :=
  (table.find? (fun entry => entry.1.contains name)).map fun entry => .table (.ofText entry.2)

/-- The two-letter categories that make up a wider one. -/
def wideCategories : List (List String × List String) :=
  [(["l", "letter"], ["lu", "ll", "lt", "lm", "lo"]),
   (["lc", "casedletter"], ["lu", "ll", "lt"]),
   (["m", "mark", "combiningmark"], ["mn", "mc", "me"]),
   (["n", "number"], ["nd", "nl", "no"]),
   (["p", "punctuation", "punct"], ["pc", "pd", "ps", "pe", "pi", "pf", "po"]),
   (["s", "symbol"], ["sm", "sc", "sk", "so"]),
   (["z", "separator"], ["zs", "zl", "zp"]),
   (["c", "other"], ["cc", "cf", "cs", "co", "cn"])]

/-- A general category by its name. -/
def category? (name : String) : Option CharSet :=
  if name = "any" then some all
  else if name = "ascii" then some (.interval 0 127)
  else if name = "assigned" then (inTable? Table.categories "cn").map .complement
  else
    match wideCategories.find? (fun entry => entry.1.contains name) with
    | some entry => some (unions (entry.2.filterMap (inTable? Table.categories)))
    | none => inTable? Table.categories name

/-- A script by its name. -/
def script? (name : String) : Option CharSet := inTable? Table.scripts name

/-- A class by a name alone: a property, a general category or a script. Three short names that are
both a property and a category mean the category. -/
def named? (name : List Char) : Option CharSet :=
  let key := canonicalName name
  let property? :=
    if key = "cf" || key = "sc" || key = "lc" then none else inTable? Table.binaryProperties key
  match property? with
  | some s => some s
  | none => (category? key).orElse (fun _ => script? key)

/-- A class by a property and its value. -/
def valued? (property value : List Char) : Option CharSet :=
  let key := canonicalName property
  let value := canonicalName value
  if key = "gc" || key = "generalcategory" then category? value
  else if key = "sc" || key = "script" || key = "scx" || key = "scriptextensions" then script? value
  else none

def decimalDigit : CharSet := (inTable? Table.categories "nd").getD .empty

def blank : CharSet := .table Table.whiteSpace

/-- Letters, marks, decimal digits, connecting punctuation and joiners. -/
def wordPart : CharSet :=
  unions <| .table Table.alphabetic ::
    (["mn", "mc", "me", "nd", "pc"].filterMap (inTable? Table.categories)
      ++ (inTable? Table.binaryProperties "joinc").toList)

def asciiDigit : CharSet := .interval 48 57

def asciiBlank : CharSet := .union (.interval 9 13) (.interval 32 32)

def asciiWordPart : CharSet :=
  unions [.interval 48 57, .interval 65 90, .interval 97 122, .interval 95 95]

/-- The classes that are written with colons inside brackets. -/
def ascii? (name : String) : Option CharSet :=
  match name with
  | "alnum" => some (unions [.interval 48 57, .interval 65 90, .interval 97 122])
  | "alpha" => some (unions [.interval 65 90, .interval 97 122])
  | "ascii" => some (.interval 0 127)
  | "blank" => some (unions [.interval 9 9, .interval 32 32])
  | "cntrl" => some (unions [.interval 0 31, .interval 127 127])
  | "digit" => some asciiDigit
  | "graph" => some (.interval 33 126)
  | "lower" => some (.interval 97 122)
  | "print" => some (.interval 32 126)
  | "punct" =>
    some (unions [.interval 33 47, .interval 58 64, .interval 91 96, .interval 123 126])
  | "space" => some asciiBlank
  | "upper" => some (.interval 65 90)
  | "word" => some asciiWordPart
  | "xdigit" => some (unions [.interval 48 57, .interval 65 70, .interval 97 102])
  | _ => none

end CharSet

end ServiceGraph.Pattern
