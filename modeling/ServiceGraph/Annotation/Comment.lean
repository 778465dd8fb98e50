import ServiceGraph.Annotation.Basic
import ServiceGraph.Decimal.Reading
import ServiceGraph.Diagnostic
import ServiceGraph.Json.Reader
import ServiceGraph.Naming
import ServiceGraph.Pattern.Reader
import ServiceGraph.Syntax.Basic
import ServiceGraph.Text.Lines

/-!
Reading doc comments.

`contentLines` gives the lines of a comment without its delimiters and without the column of stars,
each with its place in the file. A line that starts with `@` is a tag; the others make up the
description, without the empty ones at its two ends. Of two tags of one name the later one counts. A
tag with a malformed value is reported and has no effect.
-/

namespace ServiceGraph.Annotation

open Syntax

/-! ## Lines -/

/-- A piece of a line: what it holds, and how many bytes of the line stand in front of it. -/
structure Piece where
  offset : Nat
  text : List Char
deriving Repr, DecidableEq

namespace Piece

/-- Drops characters in front as long as a test holds. -/
def dropWhile (test : Char → Bool) (p : Piece) : Piece :=
  ⟨p.offset + Text.byteLength (p.text.takeWhile test), p.text.dropWhile test⟩

def trimStart (p : Piece) : Piece := p.dropWhile Text.isWhiteSpace

def trimEnd (p : Piece) : Piece := ⟨p.offset, Text.trimEnd p.text⟩

/-- Drops white space on both ends. A piece of nothing else becomes empty where it starts. -/
def trim (p : Piece) : Piece :=
  if p.text.all Text.isWhiteSpace then ⟨p.offset, []⟩ else p.trimStart.trimEnd

/-- Drops a text in front, if the piece starts with it. -/
def dropLead (lead : List Char) (p : Piece) : Piece :=
  match Text.stripLead? lead p.text with
  | some rest => ⟨p.offset + Text.byteLength lead, rest⟩
  | none => p

/-- Drops a text behind, if the piece ends with it. -/
def dropTail (tail : List Char) (p : Piece) : Piece := ⟨p.offset, Text.dropTail tail p.text⟩

end Piece

/-- The content of one line of a comment: no opening and no closing delimiter, and on every line but
the first no stars in front. -/
def lineContent (isFirst : Bool) (line : List Char) : Piece :=
  let p := (Piece.mk 0 line).trimStart.dropLead ['/', '*', '*'] |>.trimEnd.dropTail ['*', '/']
  let p := p.trimStart
  let p := if isFirst then p else p.dropWhile (· == '*')
  p.trim

/-- A line of a comment's content with its place. -/
structure ContentLine where
  text : List Char
  span : Span
deriving Repr

/-- The content of consecutive lines; the first of them is line `index` of the comment and starts
`start` bytes into it. -/
def contentLinesFrom (doc : Span) (index start : Nat) : List (List Char) → List ContentLine
  | [] => []
  | line :: rest =>
    let p := lineContent (index = 0) line
    let column := if index = 0 then doc.column + p.offset else p.offset + 1
    let place := doc.start + start + p.offset
    ⟨p.text, ⟨place, place + Text.byteLength p.text, doc.line + index, column⟩⟩ ::
      contentLinesFrom doc (index + 1) (start + Text.byteLength line + 1) rest

/-- The lines of a comment's content. -/
def contentLines (doc : Doc) : List ContentLine :=
  contentLinesFrom doc.span 0 0 (Text.splitOnChar (· = '\n') doc.text.toList)

/-! ## Values of tags -/

/-- The parts of a numeric literal: sign, digits before and after the point, and exponent. -/
structure NumericLiteral where
  negative : Bool
  whole : List Char
  fraction : List Char
  exponent : Int

/-- A numeric literal in full, as it is written in JSON. -/
def numericLiteral? (s : List Char) : Option NumericLiteral := do
  let (negative, s) := match s with
    | '-' :: rest => (true, rest)
    | _ => (false, s)
  let (whole, s) ← Json.readWhole s
  let (fraction, s) ← Json.readFraction s
  let (exponent, s) ← Json.readExponent s
  if s.isEmpty then pure ⟨negative, whole, fraction.getD [], exponent.getD 0⟩ else none

/-- The number that a value of `@min` or `@max` stands for; infinite ones are refused. -/
def number? (value : List Char) : Option Float := do
  let n ← numericLiteral? value
  let significand := (n.whole ++ n.fraction).foldl (fun k c => k * 10 + Json.digitValue c) 0
  let x := Decimal.nearest significand (n.exponent - n.fraction.length)
  if x.isInf then none else pure (if n.negative then -x else x)

/-- A length: digits without a zero in front, up to 64 bits. -/
def length? (value : List Char) : Option Nat :=
  match Json.readWhole value with
  | some (digits, []) =>
    let n := digits.foldl (fun k c => k * 10 + Json.digitValue c) 0
    if n ≤ Json.largestWhole then some n else none
  | _ => none

/-- A value without the pair of quotes it may stand in. -/
def withoutQuotes (value : List Char) : List Char :=
  match value with
  | q :: rest =>
    if (q = '"' ∨ q = '\'' ∨ q = '\x60') ∧ rest.getLast? = some q then rest.dropLast else value
  | [] => []

/-- The values listed by `@enum`, between commas or bars; empty and repeated ones are dropped. -/
def enumValues (value : List Char) : List String :=
  let parts := Text.splitOnChar (fun c => c = ',' || c = '|') value
  Naming.distinct ((parts.map fun p => String.ofList (withoutQuotes (Text.trim p))).filter (!·.isEmpty))

/-- A default value: JSON if it is, and otherwise a bare text. -/
def defaultValue (value : List Char) : Json :=
  (Json.parse? (String.ofList value)).getD (.string (String.ofList (withoutQuotes value)))

/-! ## Tags -/

/-- The problem of a value that its tag cannot take. -/
def malformed (name value : List Char) (span : Span) (expected : String) : Diagnostic :=
  ⟨.malformedTagValue, span,
    s!"malformed value `{String.ofList value}` for @{String.ofList name}: expected {expected}"⟩

/-- Applies one tag line to the tags read so far. -/
def applyTag (tags : TagSet) (name value : List Char) (span : Span) : TagSet × List Diagnostic :=
  let refuse := fun expected => (tags, [malformed name value span expected])
  match String.ofList name with
  | "min" =>
    match number? value with
    | some x => ({ tags with minimum? := some ⟨x, span⟩ }, [])
    | none => refuse "a numeric literal"
  | "max" =>
    match number? value with
    | some x => ({ tags with maximum? := some ⟨x, span⟩ }, [])
    | none => refuse "a numeric literal"
  | "minLength" =>
    match length? value with
    | some n => ({ tags with minLength? := some ⟨n, span⟩ }, [])
    | none => refuse "a non-negative integer"
  | "maxLength" =>
    match length? value with
    | some n => ({ tags with maxLength? := some ⟨n, span⟩ }, [])
    | none => refuse "a non-negative integer"
  | "pattern" =>
    let text := String.ofList value
    if value.isEmpty then refuse "a regular expression"
    else if Pattern.isValid text then ({ tags with pattern? := some ⟨text, span⟩ }, [])
    else (tags, [⟨.invalidPattern, span, s!"@pattern `{text}` does not compile"⟩])
  | "format" =>
    let text := String.ofList value
    if value.isEmpty then refuse "a format name"
    else
      ({ tags with format? := some ⟨text, span⟩ },
        if TagSet.knownFormats.contains text then []
        else [⟨.unknownFormat, span, s!"unknown format `{text}`"⟩])
  | "enum" =>
    match enumValues value with
    | [] => refuse "a list of values"
    | values => ({ tags with enumValues? := some ⟨values, span⟩ }, [])
  | "required" =>
    match String.ofList value with
    | "" | "true" => ({ tags with required? := some ⟨true, span⟩ }, [])
    | "false" => ({ tags with required? := some ⟨false, span⟩ }, [])
    | _ => refuse "`true` or `false`"
  | "default" =>
    if value.isEmpty then refuse "a value"
    else ({ tags with default? := some ⟨defaultValue value, span⟩ }, [])
  | "deprecated" => ({ tags with isDeprecated := true }, [])
  | other => (tags, [⟨.unknownTag, span, s!"unknown tag @{other} is ignored"⟩])

/-- The name and value of a tag line, if it is one. -/
def tagOfLine? (line : List Char) : Option (List Char × List Char) :=
  match line with
  | '@' :: rest =>
    let isName := fun c => !Text.isWhiteSpace c
    some (rest.takeWhile isName, Text.trim (rest.dropWhile isName))
  | _ => none

/-- Applies all tag lines in order. -/
def applyTags (tags : TagSet) : List ContentLine → TagSet × List Diagnostic
  | [] => (tags, [])
  | line :: rest =>
    match tagOfLine? line.text with
    | some (name, value) =>
      let (tags, found) := applyTag tags name value line.span
      let (tags, others) := applyTags tags rest
      (tags, found ++ others)
    | none => applyTags tags rest

/-- A list without the empty texts at its two ends. -/
def withoutEmptyEnds (lines : List (List Char)) : List (List Char) :=
  ((lines.dropWhile List.isEmpty).reverse.dropWhile List.isEmpty).reverse

/-- The description that a comment's lines make up. -/
def describe (lines : List ContentLine) : Option String :=
  let plain := lines.filterMap fun l => if (tagOfLine? l.text).isSome then none else some l.text
  match withoutEmptyEnds plain with
  | [] => none
  | kept => some (String.ofList (['\n'].intercalate kept))

/-- What a doc comment says, and what is wrong with it. -/
def ofDoc (doc : Doc) : Annotation × List Diagnostic :=
  let lines := contentLines doc
  let (tags, problems) := applyTags .empty lines
  (⟨describe lines, tags⟩, problems)

end ServiceGraph.Annotation
