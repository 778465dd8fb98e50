import ServiceGraph.Text.Property
import ServiceGraph.Text.Quoted

/-!
The escaped form of a text for listings that a person reads: quotes around it, the usual short
escapes, and a code in braces for every character that would not show or would attach to its
neighbour.
-/

namespace ServiceGraph.Text

/-- One character of a listing's text. -/
def escapeChar (c : Char) : List Char :=
  if c.toNat = 0 then ['\\', '0']
  else if c = '\t' then ['\\', 't']
  else if c = '\r' then ['\\', 'r']
  else if c = '\n' then ['\\', 'n']
  else if c = '"' then ['\\', '"']
  else if c = '\\' then ['\\', '\\']
  else if isGraphemeExtend c || !isPrintable c then
    ['\\', 'u', '\x7b'] ++ hexCode c.toNat ++ ['\x7d']
  else [c]

/-- A text in quotes, with everything escaped that a reader could not see. -/
def escaped (s : String) : String :=
  String.ofList ('"' :: s.toList.flatMap escapeChar ++ ['"'])

end ServiceGraph.Text
