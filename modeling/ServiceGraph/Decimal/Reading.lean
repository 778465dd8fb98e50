/-!
Numbers from decimal texts, in two grades of care.

* `nearest` gives the floating-point number nearest to a decimal.
* `scaled` multiplies or divides the rounded significand by a power of ten, which rounds a second
  time; a JSON document's numbers are read this way.
-/

namespace ServiceGraph.Decimal

/-- The number of decimal digits of `n`, at least one. -/
def digitCount (n : Nat) : Nat := (Nat.toDigits 10 n).length

/-- The floating-point number nearest to `significand · 10 ^ exponent`; infinite if that is beyond
the largest. Magnitudes that are certainly out of range are settled without computing the power. -/
def nearest (significand : Nat) (exponent : Int) : Float :=
  if significand = 0 then 0
  else
    let place := (digitCount significand : Int) + exponent
    if 310 < place then Float.ofScientific 1 false 400
    else if place < -330 then 0
    else if 0 ≤ exponent then Float.ofScientific significand false exponent.toNat
    else Float.ofScientific significand true (-exponent).toNat

/-- A power of ten as a floating-point number. -/
def powerOfTen (n : Nat) : Float := Float.ofScientific 1 false n

/-- Divides by `10 ^ 308` as often as it takes to bring the exponent of a small number into range,
then once by what is left. -/
def scaledDown : Nat → Float → Nat → Float
  | 0, x, _ => x
  | fuel + 1, x, exponent =>
    if exponent ≤ 308 then x / powerOfTen exponent
    else if x == 0 then x
    else scaledDown fuel (x / powerOfTen 308) (exponent - 308)

/-- `significand · 10 ^ exponent` by way of the rounded significand; none if it is too large. -/
def scaled? (significand : Nat) (exponent : Int) : Option Float :=
  let x := Float.ofNat significand
  if 0 ≤ exponent then
    if exponent ≤ 308 then
      let y := x * powerOfTen exponent.toNat
      if y.isInf then none else some y
    else if x == 0 then some x
    else none
  else some (scaledDown 4 x (-exponent).toNat)

end ServiceGraph.Decimal
