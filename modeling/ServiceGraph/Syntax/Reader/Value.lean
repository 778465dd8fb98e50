import ServiceGraph.Syntax.Reader.Type

/-!
Reading values, as far as they matter: functions by their parameters, classes and object literals by
their members, names, and plain literals. Of every other expression only the end is found.

Parentheses, `as`, `satisfies` and a trailing `!` do not change a value; an operator,
a call, a member access or a type assertion in angles makes it unknown.
-/

namespace ServiceGraph.Syntax

open Reader

namespace ValueReader

/-- Operators in front of a value. -/
def unaryOperators : List String :=
  ["!", "~", "-", "+", "++", "--", "typeof", "void", "delete", "await"]

/-- Operators between two values, assignments included. -/
def binaryOperators : List String :=
  ["+", "-", "*", "/", "%", "**", "<", ">", "<=", "==", "!=", "===", "!==", "&&", "||", "??", "&",
   "|", "^", "in", "instanceof", "=", "+=", "-=", "*=", "/=", "%=", "**=", "&=", "|=", "^=", "&&=",
   "||=", "??="]

/-- What is left of an operator that starts with an angle. -/
def angleOperatorRest (angle : String) : Nat → Reader Unit
  | 0 => pure ()
  | budget + 1 => do
    if [angle, angle ++ "=", "=", "==", "==="].contains (← peekText) then
      let _ ← next
      angleOperatorRest angle budget
    else pure ()

/-- Whether the parenthesis or angle in front starts an arrow function with parameters: after them
comes an arrow, or a result type and then an arrow. -/
def startsArrow (budget : Nat) : Reader Bool := fun c =>
  let test : Reader Unit := do
    skipAngles
    skipBrackets "("
    if ← accept ":" then TypeReader.resultType none budget
    expect "=>"
  some ((test c).isSome, c)

/-- Whether the tokens in front are type arguments: the parameters of a call stand behind them, or a
template, or nothing that the expression could go on with. -/
def startsTypeArguments (budget : Nat) : Reader Bool := fun c =>
  let test : Reader Unit := do
    expect "<"
    let _ ← TypeReader.arguments budget
    expect ">"
    match ← peek? with
    | some t => if t.kind == .template || ["(", ")", "]", "\x7d", ";", ","].contains t.text then pure () else fail
    | none => pure ()
  some ((test c).isSome, c)

/-- A decorator behind its sign. -/
def decoratorRest : Nat → Reader Unit
  | 0 => pure ()
  | budget + 1 => do
    match ← peekText with
    | "." =>
      let _ ← next
      let _ ← next
      decoratorRest budget
    | "(" => skipBrackets "("
    | _ => pure ()

/-- The decorators in front of a declaration. -/
def decorators : Nat → Reader Unit
  | 0 => pure ()
  | budget + 1 => do
    if ← accept "@" then
      if (← peekText) == "(" then skipBrackets "("
      else
        let _ ← next
        decoratorRest budget
      decorators budget
    else pure ()

/-- A name of a class or object member: its text, whether it is computed, and where it starts. -/
structure MemberName where
  text : String
  isComputed : Bool

/-- Reads the name of a class or object member. -/
def memberName : Reader MemberName := do
  match ← peek? with
  | some t =>
    if t.text = "[" then
      skipBrackets "["
      pure ⟨← slice t.start.offset (← stop), true⟩
    else if TypeReader.isPropertyName t then
      let _ ← next
      pure ⟨TypeReader.propertyName t, false⟩
    else fail
  | none => fail

/-- One more required, optional or rest parameter. -/
def countRequired (a : Arity) : Arity := { a with required := a.required + 1 }

def countOptional (a : Arity) : Arity := { a with optional := a.optional + 1 }

def countRest (a : Arity) : Arity := { a with rest := true }

mutual

/-- The parameters of a function, counted, from the opening parenthesis to the closing one. -/
def parameters : Nat → Reader Arity
  | 0 => fail
  | budget + 1 => do
    expect "("
    let arity ← parameterList ⟨0, 0, false⟩ budget
    closeWith ")"
    pure arity

/-- The parameters up to the closing parenthesis, added to those counted so far. -/
def parameterList (arity : Arity) : Nat → Reader Arity
  | 0 => fail
  | budget + 1 => do
    if (← peekText) == ")" then pure arity
    else
      let count ← parameter budget
      if ← accept "," then parameterList (count arity) budget else pure (count arity)

/-- One parameter, as what it adds to the count. A parameter with a question mark or an initial value
is optional, and `this` is none. -/
def parameter : Nat → Reader (Arity → Arity)
  | 0 => fail
  | budget + 1 => do
    decorators budget
    let _ ← TypeReader.modifiers budget
    let isRest ← accept "..."
    let isThis ← match ← peek? with
      | some t =>
        if t.text = "\x7b" || t.text = "[" then do skipBrackets t.text; pure false
        else if t.kind == .name then do let _ ← next; pure (t.text = "this")
        else fail
      | none => fail
    let marked ← accept "?"
    if ← accept ":" then
      let _ ← TypeReader.type none budget
    let hasInitial ← accept "="
    if hasInitial then
      let _ ← expression none budget
    pure <|
      if isRest then countRest
      else if marked then countOptional
      else if isThis then id
      else if hasInitial then countOptional
      else countRequired

/-- An expression without commas outside brackets. -/
def expression (ending : Option Ending) : Nat → Reader Value
  | 0 => fail
  | budget + 1 => do
    match ← ahead with
    | [] => fail
    | t :: after =>
      let follower := (afterComments after).head?
      let second := (afterComments after).tail
      if t.kind == .name && follower.any (·.text = "=>") then
        let _ ← next
        let _ ← next
        functionBody ending budget
        pure (.function ⟨1, 0, false⟩)
      else if t.text = "async" && follower.any (fun u => u.kind == .name && !u.lineBreak)
          && (afterComments second).head?.any (·.text = "=>") then
        let _ ← next
        let _ ← next
        let _ ← next
        functionBody ending budget
        pure (.function ⟨1, 0, false⟩)
      else if (t.text = "(" || t.text = "<") && (← startsArrow budget) then
        arrowFunction ending budget
      else if t.text = "async" && follower.any (fun u => u.text = "(" || u.text = "<")
          && (← lookahead (do let _ ← next; startsArrow budget)) then
        let _ ← next
        arrowFunction ending budget
      else if t.text = "yield" && t.kind == .name then
        let _ ← next
        let _ ← accept "*"
        let _ ← attempt (expression ending budget)
        pure .unknown
      else
        let first ← operand ending budget
        operators ending first budget

/-- An arrow function from its type parameters on. -/
def arrowFunction (ending : Option Ending) : Nat → Reader Value
  | 0 => fail
  | budget + 1 => do
    skipAngles
    let arity ← parameters budget
    if ← accept ":" then TypeReader.resultType none budget
    expect "=>"
    functionBody ending budget
    pure (.function arity)

/-- The body of an arrow function: a block or an expression. -/
def functionBody (ending : Option Ending) : Nat → Reader Unit
  | 0 => fail
  | budget + 1 => do
    if (← peekText) == "\x7b" then block .afterValue
    else
      let _ ← expression ending budget

/-- What follows the first operand of an expression. -/
def operators (ending : Option Ending) (value : Value) : Nat → Reader Value
  | 0 => fail
  | budget + 1 => do
    match ← peek? with
    | none => pure value
    | some t =>
      if ← endsHere ending then pure value
      else if t.kind == .name && (t.text = "as" || t.text = "satisfies") then
        let _ ← next
        let _ ← TypeReader.type ending budget
        operators ending value budget
      else if t.text = "?" then
        let _ ← next
        let _ ← expression none budget
        expect ":"
        let _ ← expression ending budget
        pure .unknown
      else if (t.kind == .name || t.kind == .punctuation) && binaryOperators.contains t.text then
        let _ ← next
        if t.text = "<" || t.text = ">" then angleOperatorRest t.text budget
        let _ ← expression ending budget
        pure .unknown
      else pure value

/-- An operand with the operators in front of it and behind it. -/
def operand (ending : Option Ending) : Nat → Reader Value
  | 0 => fail
  | budget + 1 => do
    match ← ahead with
    | [] => fail
    | t :: after =>
      if (t.kind == .name || t.kind == .punctuation) && unaryOperators.contains t.text then
        let _ ← next
        let _ ← operand ending budget
        pure .unknown
      else if t.text = "<" then
        let _ ← next
        skipToAngle
        let _ ← operand ending budget
        pure .unknown
      else if t.text = "new" && t.kind == .name then
        let _ ← next
        if (afterComments after).head?.any (·.text = ".") then
          let _ ← next
          let _ ← next
        else
          let _ ← primary ending budget
        trailers ending .unknown budget
      else
        let value ← primary ending budget
        trailers ending value budget

/-- Member accesses, calls, and what else follows an operand. -/
def trailers (ending : Option Ending) (value : Value) : Nat → Reader Value
  | 0 => fail
  | budget + 1 => do
    match ← peek? with
    | none => pure value
    | some t =>
      if ← endsHere ending then pure value
      else if t.text = "." || t.text = "?." then
        let _ ← next
        match ← peek? with
        | some u =>
          if u.kind == .name || u.kind == .privateName then
            let _ ← next
          else if !(t.text = "?." && (u.text = "(" || u.text = "[")) then fail
        | none => fail
        trailers ending .unknown budget
      else if t.text = "(" || t.text = "[" then
        skipBrackets t.text
        trailers ending .unknown budget
      else if t.kind == .template then
        let _ ← next
        trailers ending .unknown budget
      else if (t.text = "++" || t.text = "--") && !t.lineBreak then
        let _ ← next
        trailers ending .unknown budget
      else if t.text = "!" && !t.lineBreak then
        let _ ← next
        trailers ending value budget
      else if t.text = "<" && (← startsTypeArguments budget) then
        skipAngles
        trailers ending .unknown budget
      else pure value

/-- An operand without operators. -/
def primary (ending : Option Ending) : Nat → Reader Value
  | 0 => fail
  | budget + 1 => do
    let t ← next
    match t.kind with
    | .number | .string | .template | .regex => pure .literal
    | .privateName => pure .unknown
    | .name =>
      if ["true", "false", "null", "undefined"].contains t.text then pure .literal
      else if t.text = "function" then functionExpression budget
      else if t.text = "async" && (← peekText) == "function" then
        let _ ← next
        functionExpression budget
      else if t.text = "class" then
        let (_, value) ← classTail budget
        pure value
      else if t.text = "this" || t.text = "super" then pure .unknown
      else if t.text = "import" then
        if (← peekText) == "(" then skipBrackets "("
        pure .unknown
      else pure (.alias t.text)
    | .punctuation =>
      if t.text = "(" then
        let value ← expression none budget
        let value ← sequence value budget
        if ← accept ":" then
          let _ ← TypeReader.type none budget
        closeWith ")"
        pure value
      else if t.text = "[" then
        skipToClosing "["
        pure .literal
      else if t.text = "\x7b" then
        let found ← objectMembers budget
        closeWith "\x7d"
        pure (.object found)
      else if t.text = "@" then
        if (← peekText) == "(" then skipBrackets "("
        else
          let _ ← next
          decoratorRest budget
        primary ending budget
      else fail
    | _ => fail

/-- Further expressions after commas; with any, the value is unknown. -/
def sequence (value : Value) : Nat → Reader Value
  | 0 => fail
  | budget + 1 => do
    if ← accept "," then
      let _ ← expression none budget
      sequence .unknown budget
    else pure value

/-- A function expression behind its word. -/
def functionExpression : Nat → Reader Value
  | 0 => fail
  | budget + 1 => do
    let _ ← accept "*"
    if (← peekText) != "(" && (← peekText) != "<" then
      let _ ← expectKind .name
    skipAngles
    let arity ← parameters budget
    if ← accept ":" then TypeReader.resultType none budget
    block .afterValue
    pure (.function arity)

/-- A class behind its word: its name, if it has one, and its members. -/
def classTail : Nat → Reader (Option String × Value)
  | 0 => fail
  | budget + 1 => do
    let name ← match ← peek? with
      | some t =>
        if t.kind == .name && t.text != "extends" && t.text != "implements" then do
          let _ ← next
          pure (some t.text)
        else pure none
      | none => fail
    skipAngles
    classHeritage budget
    expect "\x7b"
    let found ← classMembers budget
    closeWith "\x7d"
    pure (name, .classBody found)

/-- What a class extends and implements. -/
def classHeritage : Nat → Reader Unit
  | 0 => fail
  | budget + 1 => do
    match ← peek? with
    | some t =>
      if t.text = "extends" || t.text = "implements" || t.text = "," || t.text = "." then
        let _ ← next
        let _ ← next
        classHeritage budget
      else if t.text = "(" || t.text = "[" then
        skipBrackets t.text
        classHeritage budget
      else if t.text = "<" then
        skipAngles
        classHeritage budget
      else pure ()
    | none => pure ()

/-- The members of an object literal up to its closing brace. -/
def objectMembers : Nat → Reader (List Member)
  | 0 => fail
  | budget + 1 => do
    match ← peek? with
    | none => pure []
    | some t =>
      if t.text = "\x7d" then pure []
      else
        let first ← objectMember budget
        let others ← if ← accept "," then objectMembers budget else pure []
        pure (first ++ others)

/-- One member of an object literal; a spread has none, nor has a computed key with a value. -/
def objectMember : Nat → Reader (List Member)
  | 0 => fail
  | budget + 1 => do
    match ← peek? with
    | none => fail
    | some t =>
      if ← accept "..." then
        let _ ← expression none budget
        pure []
      else
        let words ← TypeReader.modifiers budget
        let name ← memberName
        match ← peekText with
        | "(" | "<" =>
          let arity ← methodTail budget
          pure [⟨name.text, .function arity, t.start.upTo (← stop)⟩]
        | ":" =>
          let _ ← next
          let value ← expression none budget
          if name.isComputed then pure []
          else pure [⟨name.text, value, t.start.upTo (← stop)⟩]
        | "=" =>
          let _ ← next
          let _ ← expression none budget
          pure []
        | _ =>
          if words.isEmpty && t.kind == .name then
            pure [⟨name.text, .alias name.text, t.start.upTo (← stop)⟩]
          else fail

/-- Parameters, result and body of a method in an object literal. -/
def methodTail : Nat → Reader Arity
  | 0 => fail
  | budget + 1 => do
    skipAngles
    let arity ← parameters budget
    if ← accept ":" then TypeReader.resultType none budget
    block .afterType
    pure arity

/-- The members of a class up to its closing brace. -/
def classMembers : Nat → Reader (List Member)
  | 0 => fail
  | budget + 1 => do
    match ← peek? with
    | none => pure []
    | some t =>
      if t.text = "\x7d" then pure []
      else if t.text = ";" || t.text = "," then
        let _ ← next
        classMembers budget
      else
        let first ← classMember budget
        let others ← classMembers budget
        pure (first ++ others)

/-- One member of a class. Private and protected ones, constructors, index signatures and
initialisation blocks are left out. -/
def classMember : Nat → Reader (List Member)
  | 0 => fail
  | budget + 1 => do
    let front? ← peek?
    decorators budget
    match ← ahead with
    | [] => fail
    | t :: after =>
      if t.text = "static" && (afterComments after).head?.any (·.text = "\x7b") then
        let _ ← next
        block .afterType
        pure []
      else
        let words ← TypeReader.modifiers budget
        let isHidden := words.contains "private" || words.contains "protected"
        match ← ahead with
        | [] => fail
        | head :: behind =>
          if head.text = "[" && TypeReader.isIndexSignature behind then
            let _ ← TypeReader.indexSignature t.start budget
            pure []
          else
            let name ← memberName
            let marked ← accept "?"
            let _ ← if marked then pure true else accept "!"
            if ["(", "<"].contains (← peekText) then
              let arity ← classMethodTail budget
              let span := t.start.upTo (← stop)
              if isHidden || name.text = "constructor" then pure []
              else pure [⟨name.text, .function arity, span⟩]
            else
              let declared ← annotationValue budget
              let hasInitial ← accept "="
              let value ← if hasInitial then expression (some .afterValue) budget else pure declared
              let start := (front?.map (·.start)).getD t.start
              let span := start.upTo (← stop)
              endStatement (if hasInitial then .afterValue else .afterType)
              if isHidden then pure [] else pure [⟨name.text, value, span⟩]

/-- Parameters, result and, if there is one, body of a method in a class. -/
def classMethodTail : Nat → Reader Arity
  | 0 => fail
  | budget + 1 => do
    skipAngles
    let arity ← parameters budget
    if ← accept ":" then TypeReader.resultType (some .afterSignature) budget
    if (← peekText) == "\x7b" && !(← endsHere (some .afterSignature)) then block .afterType
    pure arity

/-- What the type after a colon tells about a value: the parameters of a function type. -/
def annotationValue : Nat → Reader Value
  | 0 => fail
  | budget + 1 => do
    if ← accept ":" then
      let ts ← ahead
      if TypeReader.startsFunction ts then
        match ← attempt (annotatedFunction budget) with
        | some value => pure value
        | none => fail
      else
        let _ ← TypeReader.type (some .afterType) budget
        pure .unknown
    else pure .unknown

/-- A function type in an annotation. -/
def annotatedFunction : Nat → Reader Value
  | 0 => fail
  | budget + 1 => do
    skipAngles
    let arity ← parameters budget
    expect "=>"
    TypeReader.resultType (some .afterType) budget
    pure (.function arity)

end

end ValueReader

end ServiceGraph.Syntax
