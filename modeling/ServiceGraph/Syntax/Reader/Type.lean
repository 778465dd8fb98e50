import ServiceGraph.Syntax.Cursor
import ServiceGraph.Text.Quoted

/-!
Reading types.

Binding strength, from loose to tight: conditional types, unions, intersections, and single types with
their `[]` suffixes. `readonly` and function types reach as far to the right as they can. Parentheses,
`readonly` and the question mark of a tuple item leave no trace; unions and intersections written
without parentheses are flat.

A type may stand where a statement can end at a line break; the parameter `ending` says so, and there
a bracket or `extends` on the next line does not belong to the type.

Every reader here counts down a budget, which `Reader.budgetFor` makes large enough for any list of
tokens: between two tokens only a fixed number of readers are entered.
-/

namespace ServiceGraph.Syntax

open Reader

namespace TypeReader

/-- The predefined types. -/
def keywords : List String :=
  ["any", "number", "boolean", "string", "symbol", "void", "unknown", "never", "object"]

/-- The text of a property's name, with quotes and escapes resolved. -/
def propertyName (t : Token) : String :=
  if t.kind == .string then Text.unquote t.text else t.text

/-- Whether a token can be the name of a property. -/
def isPropertyName (t : Token) : Bool :=
  t.kind == .name || t.kind == .string || t.kind == .number || t.kind == .privateName

/-- Whether the parenthesis in front opens the parameters of a function type. -/
def startsFunction (ts : List Token) : Bool :=
  match ts with
  | t :: rest =>
    if t.text = "(" then
      match behindClosing 0 rest with
      | some (_, behind) => (afterComments behind).head?.any (·.text = "=>")
      | none => false
    else t.text = "<"
  | [] => false

/-- Words that change a property when another name follows them. -/
def memberWords : List String :=
  ["readonly", "public", "private", "protected", "static", "override", "async", "get", "set",
   "abstract", "declare", "accessor"]

/-- Whether the word in front of these tokens is a modifier: a property name has to follow. -/
def modifies (after : List Token) : Bool :=
  match afterComments after with
  | t :: _ => isPropertyName t || t.text = "[" || t.text = "*"
  | [] => false

/-- Takes the modifiers in front of a property's name, and gives their texts. -/
def modifiers : Nat → Reader (List String)
  | 0 => pure []
  | budget + 1 => do
    match ← ahead with
    | t :: after =>
      if t.kind == .name && memberWords.contains t.text && modifies after then
        let _ ← next
        let others ← modifiers budget
        pure (t.text :: others)
      else if t.text = "*" then
        let _ ← next
        let others ← modifiers budget
        pure (t.text :: others)
      else pure []
    | [] => pure []

/-- Which signature a bracket in a body opens: an index or mapped signature has a name and then a
colon or `in`. -/
def isIndexSignature (after : List Token) : Bool :=
  match afterComments after with
  | t :: rest =>
    t.kind == .name && (afterComments rest).head?.any (fun u => u.text = ":" || u.text = "in")
  | [] => false

/-- The separated parts of a dotted name; the first one has been taken. -/
def dottedRest : Nat → Reader Unit
  | 0 => pure ()
  | budget + 1 => do
    match ← ahead with
    | dot :: after =>
      if dot.text = "." && (afterComments after).head?.any (·.kind == .name) then
        let _ ← next
        let _ ← next
        dottedRest budget
      else pure ()
    | [] => pure ()

/-- Comments directly ahead, as they appear among type arguments. -/
def leadingComments : Reader (List TypeExpr) := fun c =>
  let comments := c.rest.takeWhile Token.isComment
  some (comments.map (fun t => .other t.span "comment"),
    { c with rest := c.rest.dropWhile Token.isComment })

/-- What is left of a `typeof` query after its operand: members and type arguments. -/
def queryRest : Nat → Reader Unit
  | 0 => pure ()
  | budget + 1 => do
    match ← ahead with
    | t :: after =>
      if t.text = "." || t.text = "?." then
        let _ ← next
        let _ ← next
        queryRest budget
      else if t.text = "<" then
        skipAngles
        queryRest budget
      else if t.text = "[" && (afterComments after).head?.any (·.kind == .string) then
        skipBrackets "["
        queryRest budget
      else pure ()
    | [] => pure ()

/-- Whether a member ends where the cursor is. -/
def separated (c : Cursor) : Bool :=
  match afterComments c.rest with
  | [] => true
  | t :: _ => t.text = ";" || t.text = "," || t.text = "\x7d" || (implicitEnd? .afterType c).isSome

mutual

/-- A whole type. -/
def type (ending : Option Ending) : Nat → Reader TypeExpr
  | 0 => fail
  | budget + 1 => do
    match ← peek? with
    | none => fail
    | some front =>
      let left ← union ending budget
      if (← peekText) == "extends" && !(← endsHere ending) then
        let _ ← next
        let _ ← union none budget
        expect "?"
        let _ ← type none budget
        expect ":"
        let _ ← type ending budget
        pure (.other (front.start.upTo (← stop)) "conditional_type")
      else pure left

/-- Alternatives with bars between them, and perhaps one in front. -/
def union (ending : Option Ending) : Nat → Reader TypeExpr
  | 0 => fail
  | budget + 1 => do
    match ← peek? with
    | some bar =>
      if bar.text = "|" then
        let _ ← next
        let first ← intersection ending budget
        let others ← alternatives ending budget
        pure (.union (bar.start.upTo (← stop)) (first :: others))
      else
        let first ← intersection ending budget
        let start := bar.start
        match ← alternatives ending budget with
        | [] => pure first
        | others => pure (.union (start.upTo (← stop)) (first :: others))
    | none => fail

/-- The further alternatives of a union. -/
def alternatives (ending : Option Ending) : Nat → Reader (List TypeExpr)
  | 0 => fail
  | budget + 1 => do
    if ← accept "|" then
      let first ← intersection ending budget
      let others ← alternatives ending budget
      pure (first :: others)
    else pure []

/-- Types that all hold at once. -/
def intersection (ending : Option Ending) : Nat → Reader TypeExpr
  | 0 => fail
  | budget + 1 => do
    match ← peek? with
    | some front =>
      let leading ← accept "&"
      let first ← single ending budget
      match ← conjuncts ending budget with
      | [] =>
        if leading then pure (.intersection (front.start.upTo (← stop)) [first]) else pure first
      | others => pure (.intersection (front.start.upTo (← stop)) (first :: others))
    | none => fail

/-- The further members of an intersection. -/
def conjuncts (ending : Option Ending) : Nat → Reader (List TypeExpr)
  | 0 => fail
  | budget + 1 => do
    if ← accept "&" then
      let first ← single ending budget
      let others ← conjuncts ending budget
      pure (first :: others)
    else pure []

/-- A type without operators, with its suffixes; or one of the forms that reach to the right. -/
def single (ending : Option Ending) : Nat → Reader TypeExpr
  | 0 => fail
  | budget + 1 => do
    match ← ahead with
    | [] => fail
    | t :: after =>
      let follower := (afterComments after).head?
      let opens := follower.any (fun u => u.text = "(" || u.text = "<")
      if t.text = "readonly" then
        let _ ← next
        type ending budget
      else if t.text = "infer" && follower.any (·.kind == .name) then
        let _ ← next
        let _ ← next
        if (← peekText) == "extends" && !(← endsHere ending) then
          let _ ← next
          let _ ← union ending budget
        pure (.other (t.start.upTo (← stop)) "infer_type")
      else if t.text = "new" && opens || t.text = "abstract" && follower.any (·.text = "new") then
        let _ ← accept "abstract"
        expect "new"
        functionType ending t.start budget
      else if (t.text = "(" || t.text = "<") && startsFunction (t :: after) then
        functionType ending t.start budget
      else
        let inner ← primary budget
        suffixes ending t.start inner budget

/-- A function type from its type parameters on. -/
def functionType (ending : Option Ending) (start : Mark) : Nat → Reader TypeExpr
  | 0 => fail
  | budget + 1 => do
    skipAngles
    skipBrackets "("
    expect "=>"
    resultType ending budget
    pure (.function (start.upTo (← stop)))

/-- What a function returns: a type, or what its result says about an argument. -/
def resultType (ending : Option Ending) : Nat → Reader Unit
  | 0 => fail
  | budget + 1 => do
    match ← ahead with
    | t :: after =>
      let follower := (afterComments after).head?
      if t.text = "asserts" && follower.any (fun u => u.kind == .name && !u.lineBreak) then
        let _ ← next
        let _ ← next
        if ← accept "is" then
          let _ ← type ending budget
      else if t.kind == .name && follower.any (fun u => u.text = "is" && !u.lineBreak) then
        let _ ← next
        let _ ← next
        let _ ← type ending budget
      else
        let _ ← type ending budget
    | [] => fail

/-- The `[]` and `[T]` suffixes of a type. -/
def suffixes (ending : Option Ending) (start : Mark) (inner : TypeExpr) : Nat → Reader TypeExpr
  | 0 => fail
  | budget + 1 => do
    if (← peekText) == "[" && !(← endsHere ending) then
      let _ ← next
      if ← accept "]" then
        suffixes ending start (.array (start.upTo (← stop)) inner) budget
      else
        let _ ← type none budget
        closeWith "]"
        suffixes ending start (.other (start.upTo (← stop)) "lookup_type") budget
    else pure inner

/-- A type without suffixes. -/
def primary : Nat → Reader TypeExpr
  | 0 => fail
  | budget + 1 => do
    let t ← next
    match t.kind with
    | .string => pure (.literal t.span (.string (Text.unquote t.text)))
    | .number => pure (.literal t.span (.number t.text))
    | .template => pure (.other t.span "template_literal_type")
    | .name => named t budget
    | .punctuation =>
      if t.text = "\x7b" then
        let (fields, skipped) ← members none budget
        closeWith "\x7d"
        pure (.object (t.start.upTo (← stop)) fields skipped)
      else if t.text = "(" then
        let inner ← type none budget
        closeWith ")"
        pure inner
      else if t.text = "[" then
        let items ← tupleItems budget
        closeWith "]"
        pure (.tuple (t.start.upTo (← stop)) items)
      else if t.text = "-" || t.text = "+" then
        let n ← expectKind .number
        pure (.literal (t.start.upTo (← stop)) (.number (t.text ++ n.text)))
      else if t.text = "*" then pure (.other t.span "existential_type")
      else if t.text = "?" then
        let _ ← primary budget
        pure (.other (t.start.upTo (← stop)) "flow_maybe_type")
      else fail
    | _ => fail

/-- A type that starts with a name. -/
def named (t : Token) : Nat → Reader TypeExpr
  | 0 => fail
  | budget + 1 => do
    if t.text = "null" then pure (.literal t.span .null)
    else if t.text = "undefined" then pure (.literal t.span .undefined)
    else if t.text = "true" then pure (.literal t.span (.bool true))
    else if t.text = "false" then pure (.literal t.span (.bool false))
    else if t.text = "this" then pure (.other t.span "this_type")
    else if keywords.contains t.text then pure (.keyword t.span t.text)
    else if t.text = "unique" && (← peekText) == "symbol" then
      let _ ← next
      let stop ← stop
      pure (.keyword (t.start.upTo stop) (← slice t.start.offset stop))
    else if t.text = "keyof" then
      match ← peek? with
      | some operand =>
        let inner ← primary budget
        let _ ← suffixes none operand.start inner budget
        pure (.other (t.start.upTo (← stop)) "index_type_query")
      | none => fail
    else if t.text = "typeof" then
      let operand ← next
      if operand.text = "import" then skipBrackets "("
      else if operand.kind != .name then fail
      queryRest budget
      pure (.other (t.start.upTo (← stop)) "type_query")
    else if t.text = "import" then
      skipBrackets "("
      if (← peekText) == "." then
        queryRest budget
        pure (.other (t.start.upTo (← stop)) "member_expression")
      else pure (.other (t.start.upTo (← stop)) "call_expression")
    else
      dottedRest budget
      let stop ← stop
      let name ← slice t.start.offset stop
      reference t.start stop name budget

/-- A reference whose name has been read, with its type arguments. -/
def reference (start : Mark) (nameEnd : Nat) (name : String) : Nat → Reader TypeExpr
  | 0 => fail
  | budget + 1 => do
    if ← accept "<" then
      let args ← arguments budget
      closeWith ">"
      pure (.reference (start.upTo (← stop)) name args)
    else pure (.reference (start.upTo nameEnd) name [])

/-- Type arguments up to the closing angle. A comment between them is an argument of its own. -/
def arguments : Nat → Reader (List TypeExpr)
  | 0 => fail
  | budget + 1 => do
    let before ← leadingComments
    if (← peekText) == ">" then pure before
    else
      let first ← type none budget
      let behind ← leadingComments
      let others ← if ← accept "," then arguments budget else pure []
      pure (before ++ first :: behind ++ others)

/-- The items of a tuple up to the closing bracket. -/
def tupleItems : Nat → Reader (List TypeExpr)
  | 0 => fail
  | budget + 1 => do
    if (← peekText) == "]" then pure []
    else
      let first ← tupleItem budget
      let others ← if ← accept "," then tupleItems budget else pure []
      pure (first :: others)

/-- One item of a tuple: a type, perhaps optional; a named item; or the rest of the tuple. -/
def tupleItem : Nat → Reader TypeExpr
  | 0 => fail
  | budget + 1 => do
    match ← ahead with
    | [] => fail
    | t :: after =>
      let followers := (afterComments after).map (·.text)
      if t.kind == .name && followers.head? == some ":" then
        let _ ← next
        let _ ← next
        let _ ← type none budget
        pure (.other (t.start.upTo (← stop)) "required_parameter")
      else if t.kind == .name && followers.take 2 == ["?", ":"] then
        let _ ← next
        let _ ← next
        let _ ← next
        let _ ← type none budget
        pure (.other (t.start.upTo (← stop)) "optional_parameter")
      else if t.text = "..." then
        let _ ← next
        match ← ahead with
        | u :: behind =>
          if u.kind == .name && (afterComments behind).head?.any (·.text = ":") then
            let _ ← next
            let _ ← next
            let _ ← type none budget
            pure (.other (t.start.upTo (← stop)) "required_parameter")
          else
            let _ ← type none budget
            pure (.other (t.start.upTo (← stop)) "rest_type")
        | [] => fail
      else
        let item ← type none budget
        let _ ← accept "?"
        pure item

/-- The members of a body up to its closing brace, after the doc comment seen last. -/
def members (doc? : Option Doc) : Nat → Reader (List Field × List SkippedMember)
  | 0 => fail
  | budget + 1 => fun c =>
    match c.rest with
    | [] => some (([], []), c)
    | t :: rest =>
      if t.isComment then
        let doc? := if "/**".toList.isPrefixOf t.text.toList then some ⟨t.text, t.span⟩ else doc?
        members doc? budget { c with rest := rest }
      else if t.text = "\x7d" then some (([], []), c)
      else if t.text = ";" || t.text = "," then
        members doc? budget { c with rest := rest, last := t.stop }
      else
        match member doc? budget c with
        | none => none
        | some (found, c) =>
          if separated c then
            match members none budget c with
            | none => none
            | some ((fields, skipped), c) => some ((found.1 ++ fields, found.2 ++ skipped), c)
          else none

/-- One member of a body: a field, or something that has no name to keep. -/
def member (doc? : Option Doc) : Nat → Reader (List Field × List SkippedMember)
  | 0 => fail
  | budget + 1 => do
    match ← ahead with
    | [] => fail
    | t :: after =>
      let follower := (afterComments after).head?
      let opens := follower.any (fun u => u.text = "(" || u.text = "<")
      if t.text = "(" || t.text = "<" then
        signature budget
        pure ([], [⟨"call signature", t.start.upTo (← stop)⟩])
      else if t.text = "new" && opens || t.text = "abstract" && follower.any (·.text = "new") then
        let _ ← accept "abstract"
        expect "new"
        signature budget
        pure ([], [⟨"construct signature", t.start.upTo (← stop)⟩])
      else if t.text = "-" || t.text = "+" then
        let _ ← next
        expect "readonly"
        indexSignature t.start budget
      else
        let words ← modifiers budget
        match ← ahead with
        | [] => fail
        | name :: behind =>
          if name.text = "[" then
            if isIndexSignature behind then indexSignature t.start budget
            else
              skipBrackets "["
              let _ ← accept "?"
              if ["(", "<"].contains (← peekText) then signature budget
              else annotation budget
              pure ([], [⟨"computed property", t.start.upTo (← stop)⟩])
          else if isPropertyName name then
            let _ ← next
            let isOptional ← accept "?"
            let isReadonly := words.contains "readonly"
            if ["(", "<"].contains (← peekText) then
              signature budget
              let span := t.start.upTo (← stop)
              pure ([⟨propertyName name, isOptional, isReadonly, some (.function span), doc?, span⟩],
                [])
            else
              let nameEnd ← stop
              let (type?, skipped) ← declaredType budget
              let fieldEnd ← if skipped.isEmpty then stop else pure nameEnd
              pure ([⟨propertyName name, isOptional, isReadonly, type?, doc?, t.start.upTo fieldEnd⟩],
                skipped)
          else fail

/-- The type of a property after its colon. A colon without a type is reported, and becomes a member of
its own. -/
def declaredType : Nat → Reader (Option TypeExpr × List SkippedMember)
  | 0 => fail
  | budget + 1 => do
    match ← peek? with
    | some colon =>
      if colon.text = ":" then
        let _ ← next
        match ← attempt (type (some .afterType) budget) with
        | some found => pure (some found, [])
        | none =>
          report "unexpected `:`" colon.span
          pure (none, [⟨"ERROR", colon.span⟩])
      else pure (none, [])
    | none => pure (none, [])

/-- An annotation that nothing is kept of. -/
def annotation : Nat → Reader Unit
  | 0 => fail
  | budget + 1 => do
    if ← accept ":" then
      let _ ← type (some .afterType) budget

/-- Type parameters, parameters and result of a signature. -/
def signature : Nat → Reader Unit
  | 0 => fail
  | budget + 1 => do
    skipAngles
    skipBrackets "("
    if ← accept ":" then resultType (some .afterType) budget

/-- An index or mapped signature from its bracket on. -/
def indexSignature (start : Mark) : Nat → Reader (List Field × List SkippedMember)
  | 0 => fail
  | budget + 1 => do
    skipBrackets "["
    if ["-", "+"].contains (← peekText) then
      let _ ← next
    let _ ← accept "?"
    annotation budget
    pure ([], [⟨"index signature", start.upTo (← stop)⟩])

end

end TypeReader

end ServiceGraph.Syntax
