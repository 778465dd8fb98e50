import ServiceGraph.Json.Basic
import ServiceGraph.Source.Span

/-!
What a doc comment says about the thing it documents: a description, and the values of a closed set of
tags, each with the place of its line.
-/

namespace ServiceGraph

/-- A tag's value and the place of the line it stands on. -/
structure Tagged (α : Type) where
  value : α
  span : Span
deriving Repr, Inhabited

/-- The values of the tags; a tag that is not written has none. -/
structure TagSet where
  minimum? : Option (Tagged Float)
  maximum? : Option (Tagged Float)
  minLength? : Option (Tagged Nat)
  maxLength? : Option (Tagged Nat)
  pattern? : Option (Tagged String)
  format? : Option (Tagged String)
  enumValues? : Option (Tagged (List String))
  required? : Option (Tagged Bool)
  default? : Option (Tagged Json)
  isDeprecated : Bool
deriving Inhabited

namespace TagSet

def empty : TagSet := ⟨none, none, none, none, none, none, none, none, none, false⟩

/-- Formats with a well-known meaning. -/
def knownFormats : List String :=
  ["date", "date-time", "time", "duration", "email", "hostname", "ipv4", "ipv6", "uri", "url",
   "uri-reference", "uuid", "regex"]

/-- The tags, and what each of them does. -/
def knownTags : List (String × String) :=
  [("min", "Lower bound of a number"),
   ("max", "Upper bound of a number"),
   ("minLength", "Minimum length of a string or list"),
   ("maxLength", "Maximum length of a string or list"),
   ("pattern", "Regular expression a string must match"),
   ("format", "Well-known string format, such as `email` or `date-time`"),
   ("enum", "Allowed string values, separated by `,` or `|`"),
   ("required", "Overrides the optional marker: `@required` or `@required false`"),
   ("default", "Value used when the field is omitted (JSON or a bare literal)"),
   ("deprecated", "Marks the field as deprecated")]

end TagSet

structure Annotation where
  description? : Option String
  tags : TagSet
deriving Inhabited

namespace Annotation

def empty : Annotation := ⟨none, .empty⟩

end Annotation

end ServiceGraph
