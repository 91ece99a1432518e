import StreamFormula.Decimal.Digits

/-!
# Reading numbers

The number that a text denotes, as a double. A text is an optional sign and a magnitude. A magnitude
is one of the words `inf`, `infinity` and `nan` in any case, or digits with at most one dot, at
least one digit before or after it, and an optional decimal exponent. Nothing else may stand in the
text, no blank and no digit outside ASCII.

The digits and the exponent are collected exactly, and the one rounding is to the nearest double.
-/

namespace StreamFormula.Decimal

/-- What a text without its sign denotes. -/
inductive Magnitude where
  | nan
  | infinity
  /-- The number `mantissa * 10 ^ exponent`. -/
  | decimal (mantissa : Nat) (exponent : Int)
  deriving DecidableEq

namespace Magnitude

/-- The double nearest to a magnitude. -/
def toFloat : Magnitude → Float
  | nan => 0.0 / 0.0
  | infinity => 1.0 / 0.0
  | decimal mantissa exponent => Float.ofScientific mantissa (exponent < 0) exponent.natAbs

/-- The digits of an exponent, after its sign. -/
def exponentDigits? (digits : List Char) : Option Nat :=
  if digits ≠ [] ∧ digits.all Char.isDigit then some (ofDigits digits) else none

/-- The exponent that follows the digits of a magnitude; there may be none. -/
def exponent? : List Char → Option Int
  | [] => some 0
  | c :: cs =>
    if c = 'e' ∨ c = 'E' then
      match cs with
      | '-' :: digits => (exponentDigits? digits).map fun n ↦ -(n : Int)
      | '+' :: digits => (exponentDigits? digits).map Int.ofNat
      | digits => (exponentDigits? digits).map Int.ofNat
    else none

/-- The magnitude written with digits. -/
def ofDecimal? (cs : List Char) : Option Magnitude :=
  let whole := cs.takeWhile Char.isDigit
  let afterWhole := cs.dropWhile Char.isDigit
  let afterDot := if afterWhole.head? = some '.' then afterWhole.tail else []
  let fraction := afterDot.takeWhile Char.isDigit
  let rest := if afterWhole.head? = some '.' then afterDot.dropWhile Char.isDigit else afterWhole
  if whole = [] ∧ fraction = [] then none
  else (exponent? rest).map fun e ↦ decimal (ofDigits (whole ++ fraction)) (e - fraction.length)

/-- The magnitude that a text without sign denotes. -/
def ofChars? (cs : List Char) : Option Magnitude :=
  let word := String.ofList (cs.map Char.toLower)
  if word = "inf" ∨ word = "infinity" then some infinity
  else if word = "nan" then some nan
  else ofDecimal? cs

end Magnitude

/-- The double that a text denotes, if it denotes one. -/
def read? (text : String) : Option Float :=
  match text.toList with
  | '-' :: cs => (Magnitude.ofChars? cs).map fun m ↦ -m.toFloat
  | '+' :: cs => (Magnitude.ofChars? cs).map Magnitude.toFloat
  | cs => (Magnitude.ofChars? cs).map Magnitude.toFloat

end StreamFormula.Decimal
