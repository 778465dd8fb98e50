import ServiceGraph.Syntax.Reader.Value
import ServiceGraph.Text.Lines

/-!
Reading a whole file: interfaces, type aliases, bound values, imports and the default export. Every
other statement is read for its end only.

The doc comment of a declaration is the last comment of the form `/** … */` between it and what
stands before it. A comment that ends up inside the statement before, because that ends at a line
break, documents nothing.

Where no statement can be read, the fewest tokens are dropped after which one can, and what was dropped
is reported.
-/

namespace ServiceGraph.Syntax

open Reader

namespace FileReader

/-- Words that start a declaration whatever follows. -/
def declarationWords : List String := ["function", "class", "const", "let", "var"]

/-- Words that start a declaration if a name follows. -/
def namedDeclarationWords : List String := ["interface", "enum", "namespace", "module"]

/-- Whether the tokens in front start a declaration. -/
def startsDeclaration (ts : List Token) : Bool :=
  match ts with
  | t :: after =>
    let behind := afterComments after
    let follower := behind.head?
    let named := follower.any (fun u => u.kind == .name)
    t.kind == .name &&
      (declarationWords.contains t.text
        || (namedDeclarationWords.contains t.text && (named || follower.any (·.kind == .string)))
        || (t.text = "type" && named
          && (afterComments behind.tail).head?.any (fun u => u.text = "=" || u.text = "<"))
        || (t.text = "async" && follower.any (fun u => u.text = "function" && !u.lineBreak))
        || (t.text = "abstract" && follower.any (·.text = "class"))
        || (t.text = "declare" && named && follower.any (!·.lineBreak)))
  | [] => false

/-- The bases after `extends`. Comments between them are listed along. -/
def bases : Nat → Reader (List TypeExpr)
  | 0 => fail
  | budget + 1 => do
    let before ← TypeReader.leadingComments
    let t ← expectKind .name
    TypeReader.dottedRest budget
    let nameEnd ← stop
    let base ← TypeReader.reference t.start nameEnd (← slice t.start.offset nameEnd) budget
    if (← peekText) == "," then
      let behind ← TypeReader.leadingComments
      let _ ← next
      let others ← bases budget
      pure (before ++ base :: behind ++ others)
    else pure (before ++ [base])

/-- An interface behind its word. -/
def interfaceTail (doc? : Option Doc) (isExported : Bool) (start : Mark) (budget : Nat) :
    Reader Item := do
  let name ← expectKind .name
  skipAngles
  let heritage ← if ← accept "extends" then bases budget else pure []
  let opening ← peek?
  expect "\x7b"
  let (fields, skipped) ← TypeReader.members none budget
  closeWith "\x7d"
  let stop ← stop
  let bodyStart := (opening.map (·.start)).getD start
  pure <| .shape
    { name := name.text, form := .interface, heritage := heritage,
      type := .object (bodyStart.upTo stop) fields skipped, doc? := doc?, isExported := isExported,
      span := start.upTo stop, nameSpan := name.span }

/-- What an alias stands for. Nothing at all is reported, and read as a reference without a name. -/
def aliasedType (budget : Nat) : Reader TypeExpr := fun c =>
  match afterComments c.rest with
  | t :: _ =>
    if t.text = ";" then
      let nowhere := c.last.upTo c.last.offset
      some (.reference nowhere "" [], { c with errors := ⟨"missing `type_identifier`", nowhere⟩ :: c.errors })
    else TypeReader.type (some .afterType) budget c
  | [] => none

/-- The first characters of a piece of text, for a message. -/
def snippet (s : String) : String := Text.trimmed (String.ofList (s.toList.take 24))

/-- Ends a statement; one token too many in front of its semicolon is reported and dropped. -/
def endOrDropOne (ending : Ending) : Reader Unit := do
  match ← attempt (endStatement ending) with
  | some _ => pure ()
  | none =>
    let extra ← next
    report s!"unexpected `{snippet extra.text}`" extra.span
    expect ";"

/-- A type alias behind its word. -/
def aliasTail (doc? : Option Doc) (isExported : Bool) (start : Mark) (budget : Nat) :
    Reader Item := do
  let name ← expectKind .name
  skipAngles
  expect "="
  let type ← aliasedType budget
  endOrDropOne .afterType
  pure <| .shape
    { name := name.text, form := .alias, heritage := [], type := type, doc? := doc?,
      isExported := isExported, span := start.upTo (← stop), nameSpan := name.span }

/-- A function behind its word: with a body, or only declared. -/
def functionTail (isExported : Bool) (start : Mark) (budget : Nat) : Reader Item := do
  let _ ← accept "*"
  let name ← expectKind .name
  skipAngles
  let arity ← ValueReader.parameters budget
  if ← accept ":" then TypeReader.resultType (some .afterSignature) budget
  if (← peekText) == "\x7b" && !(← endsHere (some .afterSignature)) then
    block .afterType
  else endStatement .afterSignature
  pure (.binding ⟨name.text, .function arity, isExported, start.upTo (← stop)⟩)

/-- A class behind its word. Without a name it binds nothing. -/
def classDeclaration (isExported : Bool) (start : Mark) (budget : Nat) : Reader (List Item) := do
  let (name?, value) ← ValueReader.classTail budget
  mayEnd .afterType
  match name? with
  | some name => pure [.binding ⟨name, value, isExported, start.upTo (← stop)⟩]
  | none => fail

/-- The variables of a declaration. A pattern binds nothing that could be found by name. -/
def declarators (isExported : Bool) (budget : Nat) : Nat → Reader (List Item)
  | 0 => fail
  | count + 1 => do
    match ← peek? with
    | none => fail
    | some t =>
      let isPattern := t.text = "\x7b" || t.text = "["
      if isPattern then skipBrackets t.text
      else
        let _ ← expectKind .name
      let _ ← accept "!"
      let declared ← ValueReader.annotationValue budget
      let hasInitial ← accept "="
      let value ← if hasInitial then ValueReader.expression (some .afterValue) budget else pure declared
      let item : Item := .binding ⟨t.text, value, isExported, t.start.upTo (← stop)⟩
      let found := if isPattern then [] else [item]
      if ← accept "," then
        let others ← declarators isExported budget count
        pure (found ++ others)
      else
        endStatement (if hasInitial then .afterValue else .afterType)
        pure found

/-- A namespace or module behind its word. -/
def namespaceTail (budget : Nat) : Reader Unit := do
  let _ ← next
  TypeReader.dottedRest budget
  if (← peekText) == "\x7b" then
    block .afterType
  else endStatement .afterType

/-- A declaration, documented or not, exported or not. -/
def declaration (doc? : Option Doc) (isExported : Bool) : Nat → Reader (List Item)
  | 0 => fail
  | budget + 1 => do
    let t ← next
    match t.text with
    | "interface" => pure [← interfaceTail doc? isExported t.start budget]
    | "type" => pure [← aliasTail doc? isExported t.start budget]
    | "function" => pure [← functionTail isExported t.start budget]
    | "async" =>
      expect "function"
      pure [← functionTail isExported t.start budget]
    | "class" => classDeclaration isExported t.start budget
    | "abstract" =>
      expect "class"
      classDeclaration isExported t.start budget
    | "let" | "var" => declarators isExported budget budget
    | "const" =>
      if ← accept "enum" then
        let _ ← next
        skipBrackets "\x7b"
        pure []
      else declarators isExported budget budget
    | "enum" =>
      let _ ← next
      skipBrackets "\x7b"
      pure []
    | "namespace" | "module" =>
      namespaceTail budget
      pure []
    | "declare" =>
      if ← accept "global" then
        block .afterType
        pure []
      else declaration doc? isExported budget
    | _ => fail

/-! ## Imports and exports -/

/-- The names of an import list up to its closing brace. Names marked `type` are left out. -/
def importSpecifiers : Nat → Reader (List (Value → Item))
  | 0 => fail
  | budget + 1 => do
    match ← ahead with
    | [] => fail
    | t :: after =>
      if t.text = "\x7d" then pure []
      else
        let follower := (afterComments after).head?
        let isType := (t.text = "type" || t.text = "typeof")
          && follower.any (fun u => (u.kind == .name && u.text != "as") || u.kind == .string)
        let name ← if isType then do
            let _ ← next
            next
          else next
        let localName ← if ← accept "as" then expectKind .name
          else if name.kind == .name then pure name else fail
        let span := t.start.upTo (← stop)
        let isHidden := isType && t.text = "type"
        let found : List (Value → Item) :=
          if isHidden then [] else [fun value => .binding ⟨localName.text, value, false, span⟩]
        let others ← if ← accept "," then importSpecifiers budget else pure []
        pure (found ++ others)

/-- The part of an import in front of `from`. -/
def importClause (budget : Nat) : Nat → Reader (List (Value → Item))
  | 0 => fail
  | count + 1 => do
    let t ← next
    let found ←
      if t.text = "\x7b" then do
        let names ← importSpecifiers budget
        expect "\x7d"
        pure names
      else if t.text = "*" then do
        expect "as"
        let name ← expectKind .name
        pure [fun value => .binding ⟨name.text, value, false, t.start.upTo name.stop.offset⟩]
      else if t.kind == .name then
        pure [fun value => .binding ⟨t.text, value, false, t.span⟩]
      else fail
    if ← accept "," then
      let others ← importClause budget count
      pure (found ++ others)
    else pure found

/-- An import behind its word. -/
def importTail (budget : Nat) : Reader (List Item) := do
  match ← ahead with
  | [] => fail
  | t :: after =>
    let behind := afterComments after
    if t.kind == .string then
      let _ ← next
      attributes
      endStatement .afterType
      pure []
    else
      let isMarked := (t.text = "type" || t.text = "typeof") && behind.head?.any (fun u =>
        (u.kind == .name && u.text != "from") || u.text = "\x7b" || u.text = "*")
      let isType := isMarked && t.text = "type"
      if isMarked then
        let _ ← next
      match ← ahead with
      | _ :: rest =>
        if (afterComments rest).head?.any (·.text = "=") then
          let _ ← next
          let _ ← next
          let _ ← ValueReader.expression (some .afterValue) budget
          endStatement .afterType
          pure []
        else
          let found ← importClause budget 3
          expect "from"
          let source ← expectKind .string
          attributes
          endStatement .afterType
          if isType then pure []
          else pure (found.map (· (.imported (Text.unquote source.text))))
      | [] => fail
where
  /-- What an import says about the format of its source. -/
  attributes : Reader Unit := do
    if ["with", "assert"].contains (← peekText) then
      let _ ← next
      skipBrackets "\x7b"

/-- Whether the tokens behind `export default` start a declaration. A function or class does so only if
it has a name; otherwise it is a value. -/
def startsDefaultDeclaration (ts : List Token) : Bool :=
  match ts with
  | t :: after =>
    let behind := afterComments after
    let isName := fun (u : Token) => u.kind == .name && u.text != "extends" && u.text != "implements"
    if t.text = "async" then
      match behind with
      | f :: rest => f.text = "function" && !f.lineBreak && functionName (afterComments rest)
      | [] => false
    else if t.text = "function" then functionName behind
    else if t.text = "class" then behind.head?.any isName
    else startsDeclaration ts
  | [] => false
where
  functionName : List Token → Bool
    | u :: rest =>
      u.kind == .name || (u.text = "*" && (afterComments rest).head?.any (·.kind == .name))
    | [] => false

/-- What the default export of a declaration refers to: the name it declares. Variables and ambient
declarations give none. -/
def declaredValue (ts : List Token) : Value :=
  let words := (ts.filter (·.kind == .name)).map (·.text)
  let isEnum := words.take 2 == ["const", "enum"]
  if !isEnum && words.head?.any ["const", "let", "var", "declare"].contains then .unknown
  else
    match words.tail.find? (["function", "class", "enum"].contains · == false) with
    | some name => .alias name
    | none => .unknown

/-- A declaration. Decorators in front of a class belong to it. -/
def decoratedDeclaration (doc? : Option Doc) (isExported : Bool) (budget : Nat) :
    Reader (List Item) := do
  match ← peek? with
  | none => fail
  | some t =>
    if t.text = "@" then
      ValueReader.decorators budget
      let _ ← accept "abstract"
      expect "class"
      classDeclaration isExported t.start budget
    else declaration doc? isExported budget

/-- A default export behind its two words: a declaration, or a value. -/
def defaultTail (doc? : Option Doc) (start : Mark) (budget : Nat) : Reader (List Item) := do
  let ts ← lookahead (do ValueReader.decorators budget; ahead)
  if startsDefaultDeclaration ts then
    let items ← decoratedDeclaration doc? true budget
    pure (items ++ [.defaultExport ⟨declaredValue ts, start.upTo (← stop)⟩])
  else
    let value ← ValueReader.expression (some .afterValue) budget
    endStatement .afterValue
    pure [.defaultExport ⟨value, start.upTo (← stop)⟩]

/-- The source behind `from`, where it may stand. -/
def mayComeFrom : Reader Unit := do
  if ← accept "from" then
    let _ ← expectKind .string
    importTail.attributes

/-- An export behind its word. -/
def exportTail (doc? : Option Doc) (start : Mark) (budget : Nat) : Reader (List Item) := do
  let ts ← ahead
  match ts with
  | [] => fail
  | t :: after =>
    let follower := (afterComments after).head?
    if t.text = "default" then
      let _ ← next
      defaultTail doc? start budget
    else if t.text = "\x7b" then
      skipBrackets "\x7b"
      mayComeFrom
      endStatement .afterType
      pure []
    else if t.text = "*" then
      let _ ← next
      if ← accept "as" then
        let _ ← next
      mayComeFrom
      endStatement .afterType
      pure []
    else if t.text = "=" then
      let _ ← next
      let _ ← ValueReader.expression (some .afterValue) budget
      endStatement .afterValue
      pure []
    else if t.text = "type" && follower.any (fun u => u.text = "\x7b" || u.text = "*") then
      let _ ← next
      if (← peekText) == "\x7b" then skipBrackets "\x7b"
      else
        let _ ← next
      mayComeFrom
      endStatement .afterType
      pure []
    else if t.text = "as" then
      let _ ← next
      expect "namespace"
      let _ ← next
      endStatement .afterType
      pure []
    else if t.text = "import" then
      let _ ← next
      let _ ← importTail budget
      pure []
    else decoratedDeclaration doc? true budget

/-! ## Statements -/

/-- Expressions with commas between them. -/
def expressions (budget : Nat) : Reader Unit := do
  let value ← ValueReader.expression (some .afterValue) budget
  let _ ← ValueReader.sequence value budget

/-- Words that start a statement which ends like an expression. -/
def jumpWords : List String := ["return", "throw", "break", "continue", "debugger"]

/-- One statement, with the doc comment in front of it. -/
def statement (doc? : Option Doc) : Nat → Reader (List Item)
  | 0 => fail
  | budget + 1 => do
    let ts ← ahead
    match ts with
    | [] => fail
    | t :: after =>
      let follower := (afterComments after).head?
      if t.text = ";" then
        let _ ← next
        pure []
      else if t.text = "\x7b" then
        block .afterType
        pure []
      else if t.text = "@" then
        ValueReader.decorators budget
        let front ← peekText
        if front == "export" then
          let _ ← next
          exportTail doc? t.start budget
        else
          let _ ← accept "abstract"
          expect "class"
          classDeclaration false t.start budget
      else if t.kind == .name && t.text = "import"
          && !follower.any (fun u => u.text = "(" || u.text = ".") then
        let _ ← next
        importTail budget
      else if t.kind == .name && t.text = "export" then
        let _ ← next
        exportTail doc? t.start budget
      else if startsDeclaration ts then declaration doc? false budget
      else if t.kind == .name && ["if", "while", "for", "with"].contains t.text then
        let _ ← next
        let _ ← accept "await"
        skipBrackets "("
        let _ ← statement none budget
        if t.text = "if" then
          if ← accept "else" then
            let _ ← statement none budget
        pure []
      else if t.kind == .name && t.text = "do" then
        let _ ← next
        let _ ← statement none budget
        expect "while"
        skipBrackets "("
        let _ ← accept ";"
        pure []
      else if t.kind == .name && t.text = "switch" then
        let _ ← next
        skipBrackets "("
        skipBrackets "\x7b"
        pure []
      else if t.kind == .name && t.text = "try" then
        let _ ← next
        block .afterType
        if ← accept "catch" then
          if (← peekText) == "(" then skipBrackets "("
          block .afterType
        if ← accept "finally" then block .afterType
        pure []
      else if t.kind == .name && jumpWords.contains t.text then
        let _ ← next
        if !(← endsHere (some .afterValue)) && (← peekText) != ";" then expressions budget
        endStatement .afterValue
        pure []
      else if t.kind == .name && follower.any (·.text = ":") then
        let _ ← next
        let _ ← next
        statement none budget
      else
        expressions budget
        endStatement .afterValue
        pure []
/-- The cursor after a report that everything from `start` on has been dropped. -/
def reportDropped (start : Token) (c : Cursor) : Cursor :=
  let text := String.ofList (sliceFrom start.start.offset c.last.offset 0 c.source)
  let error : SyntaxError := ⟨s!"unexpected `{snippet text}`", start.start.upTo c.last.offset⟩
  { c with errors := error :: c.errors }

/-- Drops tokens until a statement can be read, and reports them. -/
def recover (start : Token) (budget : Nat) : List Token → Cursor → List Item × Cursor
  | [], c => ([], reportDropped start c)
  | t :: rest, c =>
    let dropped := { c with rest := rest, last := t.stop }
    if t.isComment || (afterComments rest).isEmpty then recover start budget rest dropped
    else
      match statement none budget (reportDropped start dropped) with
      | some found => found
      | none => recover start budget rest dropped

/-- All statements of a file, after the doc comment seen last. -/
def statements (doc? : Option Doc) (budget : Nat) : Nat → Cursor → List Item × List SyntaxError
  | 0, c => ([], c.errors.reverse)
  | count + 1, c =>
    match c.rest with
    | [] => ([], c.errors.reverse)
    | t :: rest =>
      if t.isComment then
        let doc? := if "/**".toList.isPrefixOf t.text.toList then some ⟨t.text, t.span⟩ else doc?
        statements doc? budget count { c with rest := rest }
      else
        match statement doc? budget c with
        | some (items, c) =>
          let (others, errors) := statements none budget count c
          (items ++ others, errors)
        | none =>
          let (items, c) := recover t budget c.rest c
          let (others, errors) := statements none budget count c
          (items ++ others, errors)

end FileReader

namespace SourceFile

/-- Reads a file. What cannot be read is listed among the errors; the rest is kept. -/
def read (text : String) : SourceFile :=
  let source := text.toList
  let ts := Token.scan source
  let (items, errors) :=
    FileReader.statements none (budgetFor ts) (ts.length + 1) ⟨source, ts, .origin, []⟩
  ⟨items, errors⟩

end SourceFile

end ServiceGraph.Syntax
