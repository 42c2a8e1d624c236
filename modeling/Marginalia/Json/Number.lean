/-
**Reading numbers.**

A number without a fraction and an exponent is a whole number, as long as 64 bits are enough for it.
Every other number is a binary number.  It is found in two steps, each of which rounds: first the
digits, of which only as many count as 64 bits can hold, then the power of ten.

* `Json.readNumber?` reads a number without its sign.
-/

import Marginalia.Json.Basic

namespace Marginalia.Json

open Marginalia.Decimal

/-- The value of a decimal digit. -/
def digitValue (c : Char) : Nat :=
  c.toNat - '0'.toNat

/-- Digits as a whole number and an exponent of ten. -/
structure Digits where
  significand : Nat := 0
  exponent : Int := 0
deriving Repr, DecidableEq

namespace Digits

/-- The significand with one more digit, if 64 bits are enough for it. -/
def extend? (digits : Digits) (c : Char) : Option Nat :=
  let significand := digits.significand * 10 + digitValue c
  if significand < wordLimit then some significand else none

/-- Adds digits before the point.  From the first that does not fit on, they only count for the
exponent. -/
def addWhole (digits : Digits) : List Char → Digits
  | [] => digits
  | c :: rest =>
    match digits.extend? c with
    | some significand => { digits with significand }.addWhole rest
    | none => { digits with exponent := digits.exponent + (rest.length + 1) }

/-- Adds digits behind the point.  From the first that does not fit on, they do not count. -/
def addFraction (digits : Digits) : List Char → Digits
  | [] => digits
  | c :: rest =>
    match digits.extend? c with
    | some significand =>
      ({ significand, exponent := digits.exponent - 1 } : Digits).addFraction rest
    | none => digits

end Digits

/-- One or more decimal digits. -/
def readDigits? (text : List Char) : Option (List Char × List Char) :=
  match text.takeWhile Char.isDigit, text.dropWhile Char.isDigit with
  | [], _ => none
  | digits, rest => some (digits, rest)

/-- The digits behind a decimal point, if there is one. -/
def readFraction? : List Char → Option (List Char × List Char)
  | '.' :: rest => readDigits? rest
  | rest => some ([], rest)

/-- The exponent, if there is one: whether it is negative, and its digits. -/
def readExponent? : List Char → Option (Option (Bool × List Char) × List Char)
  | c :: rest =>
    if c = 'e' || c = 'E' then
      match rest with
      | '-' :: more => (readDigits? more).map fun (digits, rest) => (some (true, digits), rest)
      | '+' :: more => (readDigits? more).map fun (digits, rest) => (some (false, digits), rest)
      | _ => (readDigits? rest).map fun (digits, rest) => (some (false, digits), rest)
    else some (none, c :: rest)
  | [] => some (none, [])

/-- The number that decimal digits spell. -/
def digitsValue (digits : List Char) : Nat :=
  digits.foldl (fun value digit => value * 10 + digitValue digit) 0

/-- The greatest exponent that is looked at. -/
def exponentLimit : Nat := 0x7fffffff

/-- The binary number of digits and an exponent behind them; `none` if it is out of range.  An
exponent beyond the limit makes zero if it is negative. -/
def magnitude? (digits : Digits) : Option (Bool × List Char) → Option Binary
  | none => (Binary.ofNat digits.significand).scaleTen? digits.exponent
  | some (negative, written) =>
    let exponent := digitsValue written
    if exponent ≤ exponentLimit then
      let exponent : Int := if negative then -exponent else exponent
      (Binary.ofNat digits.significand).scaleTen? (digits.exponent + exponent)
    else if negative || digits.significand = 0 then some .zero
    else none

/-- Whether a whole number is kept as one: it fits into 64 bits and is not a negative zero. -/
def isWhole (negative : Bool) (value : Nat) : Bool :=
  if negative then 0 < value && value ≤ wordLimit / 2 else value < wordLimit

/-- Reads a number without its sign. -/
def readNumber? (negative : Bool) (text : List Char) : Option (Json × List Char) := do
  let (whole, rest) ← readDigits? text
  if whole.head? = some '0' && whole.length > 1 then none
  let (fraction, rest) ← readFraction? rest
  let (exponent, rest) ← readExponent? rest
  let value := digitsValue whole
  if fraction.isEmpty && exponent.isNone && isWhole negative value then
    some (.int (if negative then -value else value), rest)
  else
    let digits := (({} : Digits).addWhole whole).addFraction fraction
    let magnitude ← magnitude? digits exponent
    some (.float negative magnitude, rest)

end Marginalia.Json
