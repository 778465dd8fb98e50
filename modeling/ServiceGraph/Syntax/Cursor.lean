import ServiceGraph.Syntax.Basic
import ServiceGraph.Syntax.Token

/-!
A place in a token list, and the readers that move it.

A reader either fails or moves the cursor. Comments stay in the list, since a comment in front of a
declaration documents it; `next` and its kin step over them. `endStatement` applies the rule for
statements that end without a semicolon: at the end of the text, before a closing brace, or at a line
break after which the statement could not go on. Comments up to that line break belong to the
statement.
-/

namespace ServiceGraph.Syntax

structure Cursor where
  /-- The whole text, to quote from. -/
  source : List Char
  rest : List Token
  /-- The end of the token taken last. -/
  last : Mark
  /-- What has been found wrong so far, the latest first. -/
  errors : List SyntaxError
deriving Inhabited

abbrev Reader := StateT Cursor Option

namespace Reader

/-- The tokens from the next one on that is no comment. -/
def afterComments (ts : List Token) : List Token := ts.dropWhile Token.isComment

/-- Enough steps to read any list of tokens: at most sixteen readers are entered for each. -/
def budgetFor (ts : List Token) : Nat := 16 * (ts.length + 1)

def fail {α : Type} : Reader α := fun _ => none

/-- The tokens ahead, without the comments in front. -/
def ahead : Reader (List Token) := fun c => some (afterComments c.rest, c)

/-- The next token, left where it is. -/
def peek? : Reader (Option Token) := fun c => some ((afterComments c.rest).head?, c)

/-- The text of the next token; empty at the end. -/
def peekText : Reader String := fun c => some (((afterComments c.rest).head?.map (·.text)).getD "", c)

/-- Takes the next token. -/
def next : Reader Token := fun c =>
  match afterComments c.rest with
  | t :: rest => some (t, { c with rest := rest, last := t.stop })
  | [] => none

/-- Takes the next token if it has the given text. -/
def accept (text : String) : Reader Bool := fun c =>
  match afterComments c.rest with
  | t :: rest =>
    if t.text = text then some (true, { c with rest := rest, last := t.stop }) else some (false, c)
  | [] => some (false, c)

def expect (text : String) : Reader Unit := do
  if ← accept text then pure () else fail

/-- Takes the next token if it is of the given kind. -/
def expectKind (kind : TokenKind) : Reader Token := do
  let t ← next
  if t.kind == kind then pure t else fail

/-- Runs a reader; if it fails, the cursor stays. -/
def attempt {α : Type} (r : Reader α) : Reader (Option α) := fun c =>
  match r c with
  | some (a, c') => some (some a, c')
  | none => some (none, c)

/-- What a reader would give; the cursor stays. It fails where the reader would. -/
def lookahead {α : Type} (r : Reader α) : Reader α := fun c => (r c).map fun (a, _) => (a, c)

/-- The end of what has been read. -/
def stop : Reader Nat := fun c => some (c.last.offset, c)

/-- Records that something is wrong. -/
def report (message : String) (span : Span) : Reader Unit := fun c =>
  some ((), { c with errors := ⟨message, span⟩ :: c.errors })

/-- Bytes `start` to `stop` of a text. -/
def sliceFrom (start stop : Nat) : Nat → List Char → List Char
  | _, [] => []
  | offset, c :: rest =>
    if stop ≤ offset then []
    else if offset < start then sliceFrom start stop (offset + c.utf8Size) rest
    else c :: sliceFrom start stop (offset + c.utf8Size) rest

/-- The text between two offsets. -/
def slice (start stop : Nat) : Reader String := fun c =>
  some (String.ofList (sliceFrom start stop 0 c.source), c)

/-! ## Brackets -/

def isOpening (text : String) : Bool := text = "(" || text = "[" || text = "\x7b"

def isClosing (text : String) : Bool := text = ")" || text = "]" || text = "\x7d"

/-- The tokens behind the bracket that closes `depth + 1` open ones, and its end. -/
def behindClosing (depth : Nat) : List Token → Option (Mark × List Token)
  | [] => none
  | t :: rest =>
    if t.kind != .punctuation then behindClosing depth rest
    else if isOpening t.text then behindClosing (depth + 1) rest
    else if isClosing t.text then
      match depth with
      | 0 => some (t.stop, rest)
      | depth + 1 => behindClosing depth rest
    else behindClosing depth rest

/-- The tokens behind the angle that closes `depth + 1` open ones; brackets inside are skipped. -/
def behindAngle (depth brackets : Nat) : List Token → Option (Mark × List Token)
  | [] => none
  | t :: rest =>
    if t.kind != .punctuation then behindAngle depth brackets rest
    else if isOpening t.text then behindAngle depth (brackets + 1) rest
    else if isClosing t.text then
      match brackets with
      | 0 => none
      | brackets + 1 => behindAngle depth brackets rest
    else if brackets = 0 && t.text = "<" then behindAngle (depth + 1) brackets rest
    else if brackets = 0 && t.text = ">" then
      match depth with
      | 0 => some (t.stop, rest)
      | depth + 1 => behindAngle depth brackets rest
    else behindAngle depth brackets rest

/-- The bracket that closes an opening one. -/
def closingOf (opening : String) : String :=
  if opening = "(" then ")" else if opening = "[" then "]" else "\x7d"

/-- Steps behind the bracket that closes the one just taken. Where there is none, the text ends, and
the bracket is reported as missing. -/
def skipToClosing (opening : String) : Reader Unit := fun c =>
  match behindClosing 0 c.rest with
  | some (m, rest) => some ((), { c with rest := rest, last := m })
  | none =>
    let last := ((c.rest.filter (!·.isComment)).getLast?.map (·.stop)).getD c.last
    report s!"missing `{closingOf opening}`" (last.upTo last.offset) { c with rest := [], last := last }

/-- Steps behind the angle that closes the one just taken. -/
def skipToAngle : Reader Unit := fun c =>
  (behindAngle 0 0 c.rest).map fun (m, rest) => ((), { c with rest := rest, last := m })

/-- Takes an opening bracket and everything up to its closing one. -/
def skipBrackets (opening : String) : Reader Unit := do
  expect opening
  skipToClosing opening

/-- Type parameters or arguments in angles, if there are any. -/
def skipAngles : Reader Unit := do
  if ← accept "<" then skipToAngle

/-- Takes a closing bracket. At the end of the text it is reported as missing. -/
def closeWith (closing : String) : Reader Unit := fun c =>
  match afterComments c.rest with
  | [] => report s!"missing `{closing}`" (c.last.upTo c.last.offset) c
  | _ => expect closing c

/-! ## Ends of statements -/

/-- What a statement may be ended by without a semicolon depends on where it is. -/
inductive Ending
  /-- After a type. -/
  | afterType
  /-- After an expression: an opening bracket on the next line continues it. -/
  | afterValue
  /-- After a function's signature: an opening brace on the next line is its body. -/
  | afterSignature
deriving DecidableEq, Repr

/-- Whether a token on a new line continues what stands before it. -/
def continues (ending : Ending) (t : Token) : Bool :=
  match t.kind with
  | .template | .regex => true
  | .number => t.text.toList.head? == some '.'
  | .name => t.text = "in" || t.text = "instanceof"
  | .punctuation =>
    match t.text.toList.head? with
    | some c =>
      if c = '\x7b' then ending == .afterSignature
      else if c = '(' || c = '[' then ending == .afterValue
      else if c = '+' then t.text != "++"
      else if c = '-' then t.text != "--"
      else if c = '!' then t.text = "!=" || t.text = "!=="
      else ",.;*%><=?^|&/:".toList.contains c
    | none => false
  | _ => false

/-- The cursor at the place where a statement ends without a semicolon, if it does: comments on the
same line are taken along. -/
def implicitEnd? (ending : Ending) (c : Cursor) : Option Cursor :=
  let onLine := fun (t : Token) => t.isComment && !t.lineBreak
  let taken := c.rest.takeWhile onLine
  let rest := c.rest.dropWhile onLine
  let last := match taken.getLast? with
    | some t => t.stop
    | none => c.last
  let ended := { c with rest := rest, last := last }
  match rest with
  | [] => some ended
  | t :: others =>
    if !t.lineBreak then
      if t.text = "\x7d" && (ending == .afterValue || (others.head?.all (·.text != ":"))) then some ended
      else none
    else
      match afterComments rest with
      | [] => some ended
      | u :: _ => if continues ending u then none else some ended

/-- Whether a statement with this ending ends here without a semicolon; inside brackets none does. -/
def endsHere (ending : Option Ending) : Reader Bool := fun c =>
  some ((ending.bind (implicitEnd? · c)).isSome, c)

/-- Ends a statement, with or without a semicolon. -/
def endStatement (ending : Ending) : Reader Unit := fun c =>
  match afterComments c.rest with
  | t :: rest =>
    if t.text = ";" then some ((), { c with rest := rest, last := t.stop })
    else (implicitEnd? ending c).map ((), ·)
  | [] => (implicitEnd? ending c).map ((), ·)

/-- Takes the end of a statement along where none is needed, such as after a function's body. -/
def mayEnd (ending : Ending) : Reader Unit := fun c =>
  match implicitEnd? ending c with
  | some c' => some ((), c')
  | none => some ((), c)

/-- A block of statements. The end of a line may belong to it. -/
def block (ending : Ending) : Reader Unit := do
  skipBrackets "\x7b"
  mayEnd ending

end Reader

end ServiceGraph.Syntax
