import ServiceGraph.Emission.File

/-!
The arguments of the compiler: one file and options, in any order.

An option with a value takes it after an `=` or from the next argument, a short one also from what follows
its letter. Short switches may be written together. After `--` everything is a file name.
-/

namespace ServiceGraph.CommandLine

/-- How the graph is shown. -/
inductive Format
  | human
  | json
deriving Repr, DecidableEq, Inhabited

namespace Format

def ofText? : String → Option Format
  | "human" => some .human
  | "json" => some .json
  | _ => none

end Format

/-- What the compiler is asked to do. -/
structure Options where
  input : String
  format : Format
  /-- Where to write the declarations of the graph. -/
  emitTo? : Option String
  markerModule : String
  /-- Whether warnings make the run fail. -/
  deniesWarnings : Bool
  /-- Whether the outline of the file is shown instead of the graph. -/
  showsOutline : Bool
deriving Repr, DecidableEq, Inhabited

/-- An option that has a value. -/
inductive Setting
  | format
  | emit
  | markerModule
deriving Repr, DecidableEq

/-- An option without a value. -/
inductive Switch
  | denyWarnings
  | dumpAst
  | verbose
  | help
  | version
deriving Repr, DecidableEq

namespace Setting

def all : List Setting := [.format, .emit, .markerModule]

def name : Setting → String
  | .format => "format"
  | .emit => "emit"
  | .markerModule => "marker-module"

/-- How messages name the option. -/
def shown : Setting → String
  | .format => "--format <FORMAT>"
  | .emit => "--emit <FILE>"
  | .markerModule => "--marker-module <MODULE>"

end Setting

namespace Switch

def all : List Switch := [.denyWarnings, .dumpAst, .verbose, .help, .version]

def name : Switch → String
  | .denyWarnings => "deny-warnings"
  | .dumpAst => "dump-ast"
  | .verbose => "verbose"
  | .help => "help"
  | .version => "version"

/-- The switch with a letter. -/
def ofLetter? : Char → Option Switch
  | 'v' => some .verbose
  | 'h' => some .help
  | 'V' => some .version
  | _ => none

end Switch

/-- What is wrong with arguments. -/
inductive UsageProblem
  | unexpected (argument : String)
  | missingValue (option : Setting)
  | invalidValue (option : Setting) (value : String)
  | valueForSwitch (option : Switch) (value : String)
  | repeatedSetting (option : Setting)
  | repeatedSwitch (option : Switch)
  | missingFile
deriving Repr, DecidableEq

namespace UsageProblem

def message : UsageProblem → String
  | .unexpected argument => s!"unexpected argument '{argument}' found"
  | .missingValue option => s!"a value is required for '{option.shown}' but none was supplied"
  | .invalidValue option value => s!"invalid value '{value}' for '{option.shown}'"
  | .valueForSwitch option value =>
    s!"unexpected value '{value}' for '--{option.name}' found; no more were expected"
  | .repeatedSetting option => s!"the argument '{option.shown}' cannot be used multiple times"
  | .repeatedSwitch option => s!"the argument '--{option.name}' cannot be used multiple times"
  | .missingFile => "the following required arguments were not provided:\n  <FILE>"

end UsageProblem

/-- The options that have been read so far. -/
structure Reading where
  files : List String
  settings : List (Setting × String)
  switches : List Switch
deriving Repr, Inhabited

namespace Reading

def empty : Reading := ⟨[], [], []⟩

def addFile (r : Reading) (file : String) : Except UsageProblem Reading :=
  if r.files.isEmpty && !file.isEmpty then .ok { r with files := [file] }
  else .error (.unexpected file)

def addSwitch (r : Reading) (s : Switch) : Except UsageProblem Reading :=
  if r.switches.contains s then .error (.repeatedSwitch s)
  else .ok { r with switches := r.switches ++ [s] }

/-- Adds an option with its value. Only the name of a module may be empty. -/
def addSetting (r : Reading) (s : Setting) (value : String) : Except UsageProblem Reading :=
  if (r.settings.lookup s).isSome then .error (.repeatedSetting s)
  else if value.isEmpty && s == .emit then .error (.missingValue s)
  else if s == .format && (Format.ofText? value).isNone then .error (.invalidValue s value)
  else .ok { r with settings := r.settings ++ [(s, value)] }

/-- An argument that starts like an option. -/
def isOption (argument : String) : Bool := argument.startsWith "-" && argument != "-"

/-- Reads letters after a single dash; an option that still needs its value is returned. -/
def addLetters (r : Reading) (argument : String) :
    List Char → Except UsageProblem (Reading × Option Setting)
  | [] => .ok (r, none)
  | 'f' :: [] => .ok (r, some .format)
  | 'f' :: '=' :: value => do return (← r.addSetting .format (String.ofList value), none)
  | 'f' :: value => do return (← r.addSetting .format (String.ofList value), none)
  | c :: rest =>
    match Switch.ofLetter? c with
    | some s => do (← r.addSwitch s).addLetters argument rest
    | none => .error (.unexpected argument)

/-- Reads a name after two dashes; an option that still needs its value is returned. -/
def addName (r : Reading) (argument : String) : Except UsageProblem (Reading × Option Setting) :=
  let body := argument.toList.drop 2
  let name := String.ofList (body.takeWhile (· != '='))
  let value? := match body.dropWhile (· != '=') with
    | _ :: value => some (String.ofList value)
    | [] => none
  match Setting.all.find? (·.name == name), Switch.all.find? (·.name == name), value? with
  | some s, _, some value => do return (← r.addSetting s value, none)
  | some s, _, none => .ok (r, some s)
  | none, some s, none => do return (← r.addSwitch s, none)
  | none, some s, some value => .error (.valueForSwitch s value)
  | none, none, _ => .error (.unexpected argument)

/-- Reads one argument; an option that still needs its value is returned. -/
def addArgument (r : Reading) (argument : String) :
    Except UsageProblem (Reading × Option Setting) :=
  if !isOption argument then do return (← r.addFile argument, none)
  else if argument.startsWith "--" then r.addName argument
  else r.addLetters argument (argument.toList.drop 1)

/-- Reads the arguments from left to right; `waiting?` is the option that the next one is for. -/
def addAll (r : Reading) (waiting? : Option Setting) : List String → Except UsageProblem Reading
  | [] =>
    match waiting? with
    | some s => .error (.missingValue s)
    | none => .ok r
  | argument :: rest =>
    match waiting? with
    | some s =>
      if isOption argument then .error (.missingValue s)
      else do (← r.addSetting s argument).addAll none rest
    | none =>
      if argument = "--" then rest.foldlM addFile r
      else do
        let (r, waiting?) ← r.addArgument argument
        r.addAll waiting? rest

end Reading

/-- What the arguments ask for. -/
inductive Command
  | help
  | version
  | compile (options : Options)
deriving Repr

namespace Command

/-- Reads the arguments; `module?` is the marker module if none is named. -/
def ofArguments (module? : Option String) (arguments : List String) :
    Except UsageProblem Command := do
  let r ← Reading.empty.addAll none arguments
  if r.switches.contains .help then return .help
  else if r.switches.contains .version then return .version
  else
    match r.files with
    | [] => throw .missingFile
    | input :: _ =>
      let markerModule :=
        ((r.settings.lookup .markerModule <|> module?)).getD Emission.defaultMarkerModule
      return .compile
        { input, format := ((r.settings.lookup .format).bind Format.ofText?).getD .human,
          emitTo? := r.settings.lookup .emit, markerModule,
          deniesWarnings := r.switches.contains .denyWarnings,
          showsOutline := r.switches.contains .dumpAst }

end Command

end ServiceGraph.CommandLine
