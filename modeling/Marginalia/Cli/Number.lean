/-
**Numbers on the command line.**

A number is one or more decimal digits, perhaps with a plus sign in front, and must be less than
2^64.  The digits are looked at from the left, so of a number that is too long and holds a wrong
character the fault that is met first is reported.
-/

import Marginalia.Json.Decode

namespace Marginalia.Cli

/-- What is wrong with the text of a number. -/
inductive NumberError where
  | empty
  | invalidDigit
  | tooLarge
deriving Repr, DecidableEq, Inhabited

/-- The wording of the fault. -/
def NumberError.message : NumberError → String
  | empty => "cannot parse integer from empty string"
  | invalidDigit => "invalid digit found in string"
  | tooLarge => "number too large to fit in target type"

/-- Adds digits to a number that has been read. -/
def readDigits (value : Nat) : List Char → Except NumberError Nat
  | [] => .ok value
  | c :: rest =>
    if c.isDigit then
      let next := value * 10 + (c.toNat - '0'.toNat)
      if next < Json.wordLimit then readDigits next rest else .error .tooLarge
    else .error .invalidDigit

/-- Reads a number. -/
def parseNumber (text : List Char) : Except NumberError Nat :=
  match text with
  | [] => .error .empty
  | ['+'] => .error .invalidDigit
  | '+' :: digits => readDigits 0 digits
  | digits => readDigits 0 digits

/-- What is wrong with the text of a count. -/
inductive CountError where
  | malformed (text : String) (cause : NumberError)
  | belowOne
deriving Repr, DecidableEq, Inhabited

/-- The wording of the fault. -/
def CountError.message : CountError → String
  | malformed text cause => "invalid number '" ++ text ++ "': " ++ cause.message
  | belowOne => "value must be at least 1"

/-- Reads a number that is at least one. -/
def parseCount (text : String) : Except CountError Nat :=
  match parseNumber text.toList with
  | .error cause => .error (.malformed text cause)
  | .ok 0 => .error .belowOne
  | .ok value => .ok value

end Marginalia.Cli
