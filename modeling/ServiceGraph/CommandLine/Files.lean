/-!
Files as the command line sees them: what can go wrong with one, and what a program leaves behind.

`Folder` is a folder held in memory. It answers like a file system, so that a whole run of a program can
be computed.
-/

namespace ServiceGraph.CommandLine

/-- Why a file could not be read or written. -/
inductive FileProblem
  | missing
  /-- A file stands where a folder should. -/
  | notFolder
  | isFolder
  | notText
  | other (message : String)
deriving Repr, DecidableEq, Inhabited

namespace FileProblem

def message : FileProblem → String
  | .missing => "No such file or directory (os error 2)"
  | .notFolder => "Not a directory (os error 20)"
  | .isFolder => "Is a directory (os error 21)"
  | .notText => "stream did not contain valid UTF-8"
  | .other message => message

end FileProblem

/-- The text of a file. -/
def textOf (content : ByteArray) : Except FileProblem String :=
  match String.fromUTF8? content with
  | some text => .ok text
  | none => .error .notText

/-- What a program leaves behind. -/
structure Run where
  status : Nat
  out : String
  err : String
deriving Repr, DecidableEq, Inhabited

/-! ## Folders -/

/-- Files by the parts of their paths. -/
structure Folder where
  files : List (List String × ByteArray)

namespace Folder

/-- The folder with the files of the given paths. -/
def ofFiles (files : List (String × ByteArray)) : Folder :=
  ⟨files.map fun (path, content) => (path.splitOn "/", content)⟩

/-- Where a path leads. -/
inductive Target
  | file (path : List String)
  | folder
  /-- Nothing is there, but a file could be. -/
  | free (path : List String)
  | blocked (problem : FileProblem)

def content? (f : Folder) (path : List String) : Option ByteArray := f.files.lookup path

/-- Whether a file stands below a path. -/
def isFolder (f : Folder) (path : List String) : Bool :=
  f.files.any fun (name, _) => path.isPrefixOf name && path.length < name.length

/-- Follows the parts of a path from a folder on. -/
def walk (f : Folder) (folder : List String) : List String → Target
  | [] => .folder
  | part :: rest =>
    let path := folder ++ [part]
    if part = "" || part = "." then f.walk folder rest
    else if part = ".." then
      if folder.isEmpty then (if rest.isEmpty then .folder else .blocked .missing)
      else f.walk folder.dropLast rest
    else if f.isFolder path then f.walk path rest
    else if (f.content? path).isSome then
      if rest.isEmpty then .file path else .blocked .notFolder
    else if rest.isEmpty then .free path
    else .blocked .missing

/-- Where a path leads from the folder itself. Nothing is known of other places. -/
def target (f : Folder) (path : String) : Target :=
  if path.startsWith "/" || path.isEmpty then .blocked .missing else f.walk [] (path.splitOn "/")

/-- The text of a file. -/
def read (f : Folder) (path : String) : Except FileProblem String :=
  match f.target path with
  | .file path => textOf ((f.content? path).getD ByteArray.empty)
  | .folder => .error .isFolder
  | .free _ => .error .missing
  | .blocked problem => .error problem

/-- Puts a text into a file, which need not be there. -/
def write (f : Folder) (path text : String) : Except FileProblem Folder :=
  let put := fun (path : List String) =>
    Except.ok ⟨f.files.filter (·.1 != path) ++ [(path, text.toUTF8)]⟩
  match f.target path with
  | .file path | .free path => put path
  | .folder => .error .isFolder
  | .blocked problem => .error problem

/-- The files that are in the second folder but not in the first, by path. -/
def created (before after : Folder) : List (String × ByteArray) :=
  (after.files.filter fun (path, _) => (before.content? path).isNone).map fun (path, content) =>
    ("/".intercalate path, content)

end Folder

end ServiceGraph.CommandLine
