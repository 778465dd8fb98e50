import ServiceGraph.Decimal.Shortest

/-!
Two layouts for the shortest digits of a number.

* `Layout.json` is the one of JSON documents: a whole number keeps `.0`, and very large and very small
  numbers are written with an exponent.
* `Layout.plain` is the one of sentences and tags: never an exponent, and no `.0`.
-/

namespace ServiceGraph.Decimal

/-- How the digits of a number are laid out. -/
structure Layout where
  /-- Places of the point outside this range are written with an exponent. -/
  positional : Option (Int × Int)
  /-- Whether a whole number ends in `.0`. -/
  keepsFraction : Bool
  tie : Tie

namespace Layout

/-- JSON documents: points from four zeros after the point up to sixteen places before it are
positional. -/
def json : Layout := ⟨some (-4, 16), true, .even⟩

/-- Sentences: always positional. -/
def plain : Layout := ⟨none, false, .away⟩

end Layout

def digitText (ds : List Nat) : String :=
  String.ofList (ds.map (fun d => Char.ofNat (48 + d)))

def zeros (n : Nat) : String := String.ofList (List.replicate n '0')

/-- The digits with a point and as many zeros as it takes. -/
def Digits.positional (d : Digits) (keepsFraction : Bool) : String :=
  let n := d.digits.length
  if d.digits.isEmpty then (if keepsFraction then "0.0" else "0")
  else if d.point ≤ 0 then "0." ++ zeros (-d.point).toNat ++ digitText d.digits
  else if n ≤ d.point.toNat then
    digitText d.digits ++ zeros (d.point.toNat - n) ++ (if keepsFraction then ".0" else "")
  else digitText (d.digits.take d.point.toNat) ++ "." ++ digitText (d.digits.drop d.point.toNat)

/-- One digit before the point, and the exponent with its sign after an `e`. -/
def Digits.scientific (d : Digits) : String :=
  let exponent := (if 0 < d.point then "+" else "") ++ toString (d.point - 1)
  match d.digits with
  | [] => "0"
  | [first] => digitText [first] ++ "e" ++ exponent
  | first :: rest => digitText [first] ++ "." ++ digitText rest ++ "e" ++ exponent

/-- The text of a finite number; the few others have their usual names. -/
def Layout.text (l : Layout) (x : Float) : String :=
  match Binary.ofFloat? x with
  | some b =>
    let d := shortest l.tie b.mantissa b.exponent
    let body :=
      match l.positional with
      | some (least, most) =>
        if d.digits.isEmpty || (least ≤ d.point && d.point ≤ most) then d.positional l.keepsFraction
        else d.scientific
      | none => d.positional l.keepsFraction
    if b.negative then "-" ++ body else body
  | none => if x.isNaN then "NaN" else if x < 0 then "-inf" else "inf"

end ServiceGraph.Decimal
