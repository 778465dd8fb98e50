import ServiceGraph.Text.Case
import ServiceGraph.Text.Property

/-!
Names and the spellings under which an implementation may be found.

`words` splits a name at everything that is neither letter nor number and at changes of case:
`getUser`, `get_user`, `get-user` and `GetUser` are all the words `get` and `user`, and an acronym
stays together, so that `HTTPServer` is `http` and `server`. The four conventions put the words
together again.
-/

namespace ServiceGraph.Naming

/-- Whether a word ends before the upper-case letter `c`: after a lower-case letter or a number, and
inside a run of capitals before the last one if a lower-case letter follows. -/
def startsWord (previous c : Char) (rest : List Char) : Bool :=
  Text.isUppercase c &&
    (Text.isLowercase previous || Text.isNumeric previous ||
      (Text.isUppercase previous && (rest.head?.any Text.isLowercase)))

/-- A word under construction as a list: none if it is empty. -/
def flush (word : List Char) : List (List Char) := if word.isEmpty then [] else [word]

/-- Splits what is left of a name, after the character `previous` and with `word` under
construction. -/
def splitWords (previous : Char) (word : List Char) : List Char → List (List Char)
  | [] => flush word
  | c :: rest =>
    if !Text.isAlphanumeric c then flush word ++ splitWords c [] rest
    else if !word.isEmpty && startsWord previous c rest then
      word :: splitWords c (Text.lowerChar c) rest
    else splitWords c (word ++ Text.lowerChar c) rest

/-- The lower-case words of a name. -/
def words (name : String) : List (List Char) := splitWords ' ' [] name.toList

/-- A word with its first character in upper case. -/
def capitalize : List Char → List Char
  | [] => []
  | c :: rest => Text.upperChar c ++ rest

/-- `getUser`. -/
def camelCase (name : String) : String :=
  match words name with
  | [] => ""
  | first :: rest => String.ofList (first ++ rest.flatMap capitalize)

/-- `GetUser`. -/
def pascalCase (name : String) : String := String.ofList ((words name).flatMap capitalize)

/-- `get_user`, as characters. -/
def snakeChars (name : String) : List Char := ['_'].intercalate (words name)

/-- `get_user`. -/
def snakeCase (name : String) : String := String.ofList (snakeChars name)

/-- `GET_USER`. -/
def screamingCase (name : String) : String := String.ofList (Text.upper (snakeChars name))

/-- The list without repetitions; of equal elements the first stays. -/
def distinct {α : Type} [BEq α] (xs : List α) : List α :=
  xs.foldl (fun found x => if found.contains x then found else found ++ [x]) []

/-- The spellings under which an implementation of `name` is looked for, in order and each once. -/
def variants (name : String) : List String :=
  distinct <| [name, camelCase name, pascalCase name, snakeCase name, screamingCase name].filter
    (!·.isEmpty)

end ServiceGraph.Naming
