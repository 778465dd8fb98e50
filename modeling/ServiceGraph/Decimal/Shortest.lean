/-!
The shortest decimal that reads back as a given binary floating-point number.

A finite number is `m · 2 ^ q` with `m < 2 ^ 53`. The reals that round to it form an interval around
it, half a step wide on each side, and narrower below where `m` is a power of two. For one digit, two
digits, and so on, the value's two neighbours on the decimal grid of that many digits are tried in
exact arithmetic: the first grid with a neighbour inside the interval gives the digits, and of two
neighbours inside the nearer one.
-/

namespace ServiceGraph.Decimal

/-- A finite number: sign, and magnitude `mantissa · 2 ^ exponent`. -/
structure Binary where
  negative : Bool
  mantissa : Nat
  exponent : Int
deriving Repr, DecidableEq

/-- A positive decimal `0.d₁d₂…dₙ · 10 ^ point` as its digits, the first one not zero, and the place
of its point. Zero has no digits. -/
structure Digits where
  digits : List Nat
  point : Int
deriving Repr, DecidableEq

/-- Which of two equally near decimals is taken. -/
inductive Tie
  | even
  | away
deriving Repr, DecidableEq

/-- The leading bit of a normal mantissa, the 52nd power of two. It is not stored. -/
def leadingBit : Nat := 0x10000000000000

/-- Splits a number into sign, mantissa and exponent; none for infinities and for what is no
number. -/
def Binary.ofFloat? (x : Float) : Option Binary :=
  let bits : Nat := x.toBits.toNat
  let negative := bits / 0x8000000000000000 = 1
  let biased : Nat := bits / leadingBit % 2048
  let fraction : Nat := bits % leadingBit
  if biased = 2047 then none
  else if biased = 0 then some ⟨negative, fraction, -1074⟩
  else some ⟨negative, fraction + leadingBit, (biased : Int) - 1075⟩

/-- A positive number over a common denominator with the ends of its rounding interval: the value is
`value / scale`, the interval reaches from `low / scale` to `high / scale`. -/
structure Interval where
  low : Nat
  value : Nat
  high : Nat
  scale : Nat
  closed : Bool
deriving Repr

/-- The rounding interval of `m · 2 ^ q`. Its ends belong to it when `m` is even. -/
def Interval.ofBinary (m : Nat) (q : Int) : Interval :=
  let below := if m = leadingBit ∧ -1074 < q then 1 else 2
  let up := Nat.pow 2 q.toNat
  ⟨(4 * m - below) * up, 4 * m * up, (4 * m + 2) * up, 4 * Nat.pow 2 (-q).toNat, m % 2 = 0⟩

/-- Whether the decimal `n / d`, over the interval's own scale, reads back as the number. -/
def Interval.holds (i : Interval) (n d : Nat) : Bool :=
  if i.closed then i.low * d ≤ n ∧ n ≤ i.high * d else i.low * d < n ∧ n < i.high * d

/-- The place of the point of a positive ratio: the least `p` with `num / den < 10 ^ p`. -/
def pointOf (num den : Nat) : Int :=
  let rec up : Nat → Nat → Int → Int
    | 0, _, p => p
    | fuel + 1, bound, p => if num < bound then p else up fuel (bound * 10) (p + 1)
  let rec down : Nat → Nat → Int → Int
    | 0, _, p => p
    | fuel + 1, scaled, p => if scaled * 10 < den then down fuel (scaled * 10) (p - 1) else p
  if num < den then down 400 num 0 else up 400 den 0

/-- The best decimal with `n` digits inside the interval, as a whole number of units of the grid and
the exponent of the unit. -/
def Interval.onGrid? (i : Interval) (tie : Tie) (point : Int) (n : Nat) : Option (Nat × Int) :=
  let unit : Int := point - n
  let up := Nat.pow 10 unit.toNat
  let down := Nat.pow 10 (-unit).toNat
  let step := i.scale * up
  let scaled := i.value * down
  let below := scaled / step
  let above := below + 1
  let fits := fun k => i.holds (k * step) down
  let rest := scaled - below * step
  let nearer := if 2 * rest < step then below else if step < 2 * rest then above
    else match tie with
      | .even => if below % 2 = 0 then below else above
      | .away => above
  if rest = 0 then some (below, unit)
  else if fits below && fits above then some (nearer, unit)
  else if fits below then some (below, unit)
  else if fits above then some (above, unit)
  else none

/-- The decimal digits of a number, most significant first; none for zero. -/
def digitsOf (n : Nat) : List Nat :=
  if n = 0 then [] else (Nat.toDigits 10 n).map (fun c => c.toNat - 48)

/-- A whole number of units `10 ^ unit` as digits without zeros at the end. -/
def Digits.ofUnits (k : Nat) (unit : Int) : Digits :=
  let all := digitsOf k
  ⟨(all.reverse.dropWhile (· = 0)).reverse, all.length + unit⟩

/-- The shortest decimal that reads back as `m · 2 ^ q`. Seventeen digits always suffice. -/
def shortest (tie : Tie) (m : Nat) (q : Int) : Digits :=
  if m = 0 then ⟨[], 0⟩
  else
    let i := Interval.ofBinary m q
    let point := pointOf i.value i.scale
    match (List.range 17).findSome? (fun n => i.onGrid? tie point (n + 1)) with
    | some (k, unit) => Digits.ofUnits k unit
    | none => ⟨[], 0⟩

end ServiceGraph.Decimal
