/-
**Binary numbers of 53 bits.**

A number with a fraction or an exponent is kept as a binary number of 53 bits.  All numbers here are
exact and not negative: a `Ratio` is a quotient of two natural numbers, and `Binary.nearest` is the
binary number that is nearest to one.

* `Binary.scaleTen?` multiplies or divides a binary number by a power of ten.  The power is itself
  rounded before, and the result is rounded again.
-/

namespace Marginalia.Decimal

/-- A quotient of two natural numbers. -/
structure Ratio where
  numerator : Nat
  denominator : Nat
deriving Repr, DecidableEq

namespace Ratio

/-- A number times a power of a base. -/
def scaled (value base : Nat) (exponent : Int) : Ratio :=
  match exponent with
  | .ofNat exponent => ⟨value * Nat.pow base exponent, 1⟩
  | .negSucc exponent => ⟨value, Nat.pow base (exponent + 1)⟩

/-- The quotient divided by a power of a base. -/
def unscale (ratio : Ratio) (base : Nat) (exponent : Int) : Ratio :=
  match exponent with
  | .ofNat exponent => ⟨ratio.numerator, ratio.denominator * Nat.pow base exponent⟩
  | .negSucc exponent => ⟨ratio.numerator * Nat.pow base (exponent + 1), ratio.denominator⟩

/-- The greatest natural number that is not greater. -/
def floor (ratio : Ratio) : Nat :=
  ratio.numerator / ratio.denominator

/-- The nearest natural number; halves go to the even neighbour. -/
def round (ratio : Ratio) : Nat :=
  let whole := ratio.floor
  let twice := 2 * (ratio.numerator % ratio.denominator)
  if twice < ratio.denominator then whole
  else if ratio.denominator < twice then whole + 1
  else whole + whole % 2

/-- The distance of a natural number, in units of one over the denominator. -/
def distance (ratio : Ratio) (value : Nat) : Nat :=
  let product := value * ratio.denominator
  (product - ratio.numerator) + (ratio.numerator - product)

/-- The product of two quotients. -/
def times (first second : Ratio) : Ratio :=
  ⟨first.numerator * second.numerator, first.denominator * second.denominator⟩

/-- The quotient of two quotients. -/
def dividedBy (first second : Ratio) : Ratio :=
  ⟨first.numerator * second.denominator, first.denominator * second.numerator⟩

end Ratio

/-- A binary number: a mantissa times a power of two. -/
structure Binary where
  mantissa : Nat
  exponent : Int
deriving Repr, DecidableEq, Inhabited

namespace Binary

/-- Zero. -/
def zero : Binary := ⟨0, 0⟩

/-- Whether a binary number is zero. -/
def isZero (binary : Binary) : Bool :=
  binary.mantissa == 0

/-- The exact value of a binary number. -/
def value (binary : Binary) : Ratio :=
  .scaled binary.mantissa 2 binary.exponent

/-- The least exponent of two. -/
def leastExponent : Int := -1074

/-- The greatest exponent of two. -/
def greatestExponent : Int := 971

/-- The binary number of 53 bits that is nearest to a quotient; halves go to the even neighbour.
Very small quotients have fewer bits. -/
def nearest (ratio : Ratio) : Binary :=
  if ratio.numerator = 0 then zero
  else
    let guess : Int := (Nat.log2 ratio.numerator : Int) - Nat.log2 ratio.denominator - 52
    let exact := if (ratio.unscale 2 guess).floor < 1 <<< 52 then guess - 1 else guess
    let exponent := max exact leastExponent
    let mantissa := (ratio.unscale 2 exponent).round
    if mantissa = 0 then zero
    else if mantissa = 1 <<< 53 then ⟨1 <<< 52, exponent + 1⟩
    else ⟨mantissa, exponent⟩

/-- The binary number nearest to a natural number. -/
def ofNat (value : Nat) : Binary :=
  nearest ⟨value, 1⟩

/-- Whether a binary number is within the range of binary numbers. -/
def isFinite (binary : Binary) : Bool :=
  binary.exponent ≤ greatestExponent

/-- The greatest exponent of a power of ten within the range of binary numbers. -/
def greatestPower : Nat := 308

/-- The binary number nearest to a power of ten. -/
def powerOfTen (exponent : Nat) : Binary :=
  nearest ⟨Nat.pow 10 exponent, 1⟩

/-- Divides by a power of ten, by no more than the greatest one at a time. -/
def divideTen (binary : Binary) (exponent : Nat) : Binary :=
  if exponent ≤ greatestPower then nearest (binary.value.dividedBy (powerOfTen exponent).value)
  else if binary.isZero then binary
  else
    (nearest (binary.value.dividedBy (powerOfTen greatestPower).value)).divideTen
      (exponent - greatestPower)
termination_by exponent
decreasing_by
  simp only [greatestPower] at *
  omega

/-- Multiplies by a power of ten; `none` if the result is out of range. -/
def multiplyTen? (binary : Binary) (exponent : Nat) : Option Binary :=
  if binary.isZero then some binary
  else if greatestPower < exponent then none
  else
    let product := nearest (binary.value.times (powerOfTen exponent).value)
    if product.isFinite then some product else none

/-- Multiplies by a power of ten, or divides by it; `none` if the result is out of range. -/
def scaleTen? (binary : Binary) (exponent : Int) : Option Binary :=
  match exponent with
  | .ofNat exponent => binary.multiplyTen? exponent
  | .negSucc exponent => some (binary.divideTen (exponent + 1))

end Binary

end Marginalia.Decimal
