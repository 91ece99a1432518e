import StreamFormula.Decimal.Digits

/-!
# JSON values

JSON as a value: an object keeps its members as they were written, in order and with repeats, so it
is up to who reads a document what a repeated key means. The type of strings is a parameter `τ`:
a value that is written out has `String`s, and one that was read has `Option String`s, because the
escapes of a JSON string may name half of a surrogate pair and then stand for no text.

Numbers are kept as written (`Numeral`). `Numeral.toFloat?` is their value as a double, computed
with 64 bits for the digits and one scaling by a power of ten, and refused beyond the finite
doubles.
-/

namespace StreamFormula

/-- A JSON number as it is written: a sign, whole digits without leading zeros, the digits of a
fraction and a power of ten. -/
structure Numeral where
  negative : Bool
  whole : Nat
  fraction : List Nat
  exponent : Int
  deriving DecidableEq

/-- A JSON value whose strings are of type `τ`. -/
inductive Json (τ : Type) where
  | null
  | bool (value : Bool)
  | number (value : Numeral)
  | string (value : τ)
  | array (items : List (Json τ))
  | object (members : List (τ × Json τ))

namespace Numeral

/-- A natural number. -/
def ofNat (n : Nat) : Numeral := ⟨false, n, [], 0⟩

@[simp] theorem ofNat_inj {m n : Nat} : ofNat m = ofNat n ↔ m = n := by simp [ofNat]

/-! ### The value as a double -/

/-- The first number that does not fit into 64 bits. -/
def wordBound : Nat := 0x10000000000000000

/-- The leading digits of a whole number that fit into 64 bits, and how many digits are left off. -/
def leadingDigits (n : Nat) : Nat × Nat :=
  if n < wordBound then (n, 0)
  else
    let (digits, dropped) := leadingDigits (n / 10)
    (digits, dropped + 1)
termination_by n
decreasing_by simp only [wordBound] at *; omega

/-- Appends digits of a fraction to a significand as long as it fits into 64 bits; each of them
makes the scale one smaller. -/
def appendDigits (significand : Nat) (scale : Int) : List Nat → Nat × Int
  | [] => (significand, scale)
  | d :: ds =>
    if 10 * significand + d < wordBound then appendDigits (10 * significand + d) (scale - 1) ds
    else (significand, scale)

/-- Divides by a power of ten, in steps of at most `1e308`. -/
def scaleDown (x : Float) (n : Nat) : Float :=
  if n ≤ 308 then x / Float.ofScientific 1 false n
  else if x == 0.0 then x
  else scaleDown (x / Float.ofScientific 1 false 308) (n - 308)
termination_by n
decreasing_by omega

/-- Multiplies by a power of ten; there is no result beyond the finite doubles. -/
def scaleUp? (x : Float) (n : Nat) : Option Float :=
  if n ≤ 308 then
    let y := x * Float.ofScientific 1 false n
    if y.isInf then none else some y
  else if x == 0.0 then some x
  else none

/-- The value of a numeral as a double, if it is not too large for one. -/
def toFloat? (n : Numeral) : Option Float :=
  let (whole, dropped) := leadingDigits n.whole
  let (significand, scale) := appendDigits whole dropped n.fraction
  let exponent := scale + n.exponent
  let magnitude :=
    if exponent < 0 then some (scaleDown (Float.ofNat significand) exponent.natAbs)
    else scaleUp? (Float.ofNat significand) exponent.natAbs
  magnitude.map fun x ↦ if n.negative then -x else x

end Numeral

end StreamFormula
