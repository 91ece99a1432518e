/-!
# The shortest text of a number

The text of a double has the fewest decimal digits that still tell it from all other doubles, and of
those the nearest to it. It is written without an exponent, and a whole number without a dot.

A finite double is a significand times a power of two (`Dyadic`). The reals that round to it form an
interval around it, closed when its significand is even. A decimal grid has the multiples of a power
of ten; where a point of a grid lies in the interval at all, one of the two grid points next to the
double does. So the grids are tried from coarse to fine, with two points each, in exact arithmetic
(`Dyadic.onGrid?`), and the search ends at the latest on a grid that holds the double itself.
-/

namespace StreamFormula.Decimal

/-- The number `significand * 2 ^ exponent`. -/
structure Dyadic where
  significand : Nat
  exponent : Int
  deriving DecidableEq

/-- The point `digits * 10 ^ scale` of a decimal grid. -/
structure GridPoint where
  digits : Nat
  scale : Int
  deriving DecidableEq

/-- The leading bit of the significand of a double, which has 53 bits. -/
def leadingBit : Nat := 0x10000000000000

namespace Dyadic

/-- A power of a base with a whole exponent, as a numerator and a denominator. -/
def power (base : Nat) (exponent : Int) : Nat × Nat :=
  if exponent < 0 then (1, base.pow exponent.natAbs) else (base.pow exponent.natAbs, 1)

/-- How far below a double the reals still round to it, in quarters of its unit: half a unit, or a
quarter where the exponent changes and the doubles below lie twice as dense. -/
def quartersBelow (x : Dyadic) : Nat :=
  if x.significand = leadingBit ∧ -1074 < x.exponent then 1 else 2

/-- The point of the grid of step `10 ^ scale` that a number is written as, if one of its neighbours
there rounds to it. A number halfway between two such neighbours is written as the upper one. -/
def onGrid? (x : Dyadic) (scale : Int) : Option GridPoint :=
  let (two, perTwo) := power 2 (x.exponent - 2)
  let (ten, perTen) := power 10 scale
  -- In quarters of a unit of the significand, and in multiples of the step of the grid.
  let unit := two * perTen
  let step := perTwo * ten
  let value := 4 * x.significand * unit
  let low := value - x.quartersBelow * unit
  let high := value + 2 * unit
  let below := value / step
  let above := below + 1
  let fits := fun n ↦
    if x.significand % 2 = 0 then low ≤ n * step && n * step ≤ high
    else low < n * step && n * step < high
  let closer := if value - below * step < above * step - value then below else above
  let farther := if closer = above then below else above
  if fits closer then some ⟨closer, scale⟩
  else if fits farther then some ⟨farther, scale⟩
  else none

/-- The first of some grids that a number can be written on. Each grid is ten times finer than the
one before it, and the last one is taken to hold the number itself. -/
def search (x : Dyadic) (scale : Int) : Nat → GridPoint
  | 0 =>
    let (two, perTwo) := power 2 x.exponent
    let (ten, perTen) := power 10 scale
    ⟨x.significand * two * perTen / (perTwo * ten), scale⟩
  | n + 1 =>
    match x.onGrid? scale with
    | some d => d
    | none => x.search (scale - 1) n

/-- The shortest grid point that reads back as a positive double. No double reaches `10 ^ 309`, and
each is a multiple of `10 ^ (-1074)`. -/
def shortest (x : Dyadic) : GridPoint := x.search 309 (309 + 1074)

end Dyadic

/-- A point of a decimal grid, written without an exponent. -/
def GridPoint.positional (d : GridPoint) : List Char :=
  let digits := Nat.toDigits 10 d.digits
  if d.scale < 0 then
    let places := d.scale.natAbs
    let padded := List.replicate (places + 1 - digits.length) '0' ++ digits
    let (whole, fraction) := padded.splitAt (padded.length - places)
    whole ++ '.' :: fraction
  else digits ++ List.replicate d.scale.natAbs '0'

/-- The magnitude of a finite double, from the fields of its binary form. -/
def dyadicOfFields (exponentField fraction : Nat) : Dyadic :=
  if exponentField = 0 then ⟨fraction, -1074⟩ else ⟨leadingBit + fraction, exponentField - 1075⟩

/-- The text of a double. -/
def render (x : Float) : String :=
  let bits := x.toBits.toNat
  let negative := bits / leadingBit / 0x800 = 1
  let exponentField := bits / leadingBit % 0x800
  let fraction := bits % leadingBit
  if exponentField = 0x7ff then
    if fraction ≠ 0 then "NaN" else if negative then "-inf" else "inf"
  else
    let magnitude := dyadicOfFields exponentField fraction
    let digits :=
      if magnitude.significand = 0 then ['0'] else magnitude.shortest.positional
    String.ofList (if negative then '-' :: digits else digits)

end StreamFormula.Decimal
