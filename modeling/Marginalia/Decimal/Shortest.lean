/-
**Shortest decimals.**

A binary number is shown with the fewest digits that still lead to it; of two such decimals the
nearer one is shown.
-/

import Marginalia.Decimal.Binary

namespace Marginalia.Decimal

/-- The decimal with its last digit at a place that leads to a binary number and is nearest to it. -/
def atPlace? (binary : Binary) (place : Int) : Option Nat :=
  let ratio := binary.value.unscale 10 place
  let below := ratio.floor
  let fits (value : Nat) : Bool :=
    value ≠ 0 && Binary.nearest (.scaled value 10 place) = binary
  match fits below, fits (below + 1) with
  | true, true =>
    if ratio.distance (below + 1) < ratio.distance below then some (below + 1) else some below
  | true, false => some below
  | false, true => some (below + 1)
  | false, false => none

/-- The most digits that are ever needed. -/
def mostDigits : Nat := 17

/-- The number of digits before the point of a quotient that is at least one, or the number of zeros
behind the point, as a negative number, of a smaller one. -/
def pointOf (ratio : Ratio) : Int :=
  if ratio.denominator ≤ ratio.numerator then (Nat.toDigits 10 ratio.floor).length
  else 1 - (Nat.toDigits 10 (ratio.denominator / ratio.numerator)).length

/-- The shortest decimal of a binary number other than zero: a whole number and the exponent of the
power of ten that it is multiplied with. -/
def shortest (binary : Binary) : Nat × Int :=
  let point := pointOf binary.value
  let places := (List.range (mostDigits + 1)).map fun (count : Nat) => point - (count : Int)
  match places.findSome? fun place => (atPlace? binary place).map (·, place) with
  | some decimal => decimal
  | none => (binary.mantissa, 0)

end Marginalia.Decimal
