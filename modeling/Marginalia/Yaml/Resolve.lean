/-
**What a plain YAML scalar is read as.**

A text without quotes may be read back as something else than a text: as nothing, a truth value or a
number.  `resolvesToText` tells which texts are safe.
-/

import Marginalia.Text.Hex

namespace Marginalia.Yaml

/-- The spellings of no value. -/
def isNull (text : String) : Bool :=
  ["", "null", "Null", "NULL", "~"].contains text

/-- The spellings of the truth values. -/
def isBool (text : String) : Bool :=
  ["true", "True", "TRUE", "false", "False", "FALSE"].contains text

/-- A text without the first of some signs in front. -/
def dropSign (signs : List Char) : List Char → List Char
  | c :: rest => if signs.contains c then rest else c :: rest
  | [] => []

/-- Digits that start with a zero, perhaps with a sign in front, are no number; a single zero is. -/
def hasLeadingZero (text : List Char) : Bool :=
  match dropSign ['+', '-'] text with
  | '0' :: next :: rest => (next :: rest).all Char.isDigit
  | _ => false

/-- The value of digits in a base, the first being the highest; `none` if there are none, or a
character is no digit. -/
def digitsValue? (base : Nat) (digits : List Char) : Option Nat :=
  if digits.isEmpty then none
  else
    digits.foldl (fun total c => do
      let value ← Text.hexValue? c
      if value < base then some ((← total) * base + value) else none) (some 0)

/-- The digits and the base of a number without a sign: hexadecimal, octal and binary numbers are
marked in front. -/
def splitBase : List Char → Nat × List Char
  | '0' :: 'x' :: digits => (16, digits)
  | '0' :: 'o' :: digits => (8, digits)
  | '0' :: 'b' :: digits => (2, digits)
  | digits => (10, digits)

/-- Whether a number without a sign can be read and is at most `limit`. -/
def isMagnitude (limit : Nat) (text : List Char) : Bool :=
  let (base, digits) := splitBase text
  (digitsValue? base digits).any (· ≤ limit)

/-- Whether a text is a whole number of at most 128 bits, or one of at most 127 bits with a minus
sign in front. -/
def isInteger (text : List Char) : Bool :=
  !hasLeadingZero text &&
    match text with
    | '-' :: magnitude => isMagnitude (1 <<< 127) magnitude
    | _ => isMagnitude ((1 <<< 128) - 1) (dropSign ['+'] text)

/-- The digits before and behind the point and the exponent of a decimal number without a sign. -/
structure Decimal where
  digits : List Char
  exponent : Int
deriving Repr, DecidableEq

/-- Reads the exponent of a decimal number, which may be missing. -/
def exponent? : List Char → Option Int
  | [] => some 0
  | mark :: rest =>
    if mark = 'e' || mark = 'E' then
      let value := (digitsValue? 10 (dropSign ['+', '-'] rest)).map Int.ofNat
      if rest.head? = some '-' then value.map (- ·) else value
    else none

/-- Reads a decimal number without a sign; there must be a digit before or behind the point. -/
def decimal? (text : List Char) : Option Decimal := do
  let whole := text.takeWhile Char.isDigit
  let (fraction, rest) := match text.dropWhile Char.isDigit with
    | '.' :: rest => (rest.takeWhile Char.isDigit, rest.dropWhile Char.isDigit)
    | rest => ([], rest)
  if whole.isEmpty && fraction.isEmpty then none
  return { digits := whole ++ fraction, exponent := (← exponent? rest) - fraction.length }

/-- The least number that is too large for a floating point number of 64 bits: half a unit above
the greatest one. -/
def floatLimit : Nat := ((1 <<< 54) - 1) <<< 970

/-- Whether a decimal number is below the limit.  The number of its digits settles all but the
numbers near the limit. -/
def Decimal.isFinite (decimal : Decimal) : Bool :=
  let digits := decimal.digits.dropWhile (· == '0')
  let places := digits.length + decimal.exponent
  if digits.isEmpty || places < 300 then true
  else if 320 < places then false
  else
    let mantissa := (digitsValue? 10 digits).getD 0
    match decimal.exponent with
    | .ofNat exponent => mantissa * Nat.pow 10 exponent < floatLimit
    | .negSucc exponent => mantissa < floatLimit * Nat.pow 10 (exponent + 1)

/-- The spellings of infinity, without a sign. -/
def isInfinity (text : List Char) : Bool :=
  [".inf", ".Inf", ".INF"].contains (String.ofList text)

/-- The spellings of what is not a number. -/
def isNotNumber (text : List Char) : Bool :=
  [".nan", ".NaN", ".NAN"].contains (String.ofList text)

/-- Whether a text is a floating point number. -/
def isFloat (text : List Char) : Bool :=
  let magnitude := dropSign ['+', '-'] text
  !hasLeadingZero text &&
    (isNotNumber text || isInfinity magnitude || (decimal? magnitude).any Decimal.isFinite)

/-- Whether a text without quotes is read back as a text. -/
def resolvesToText (text : String) : Bool :=
  !(isNull text || isBool text || isInteger text.toList || isFloat text.toList
    || hasLeadingZero text.toList)

end Marginalia.Yaml
