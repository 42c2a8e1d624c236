/-
**Sizes on the command line.**

A size is a number of bytes, perhaps with a unit behind it: `10K`, `2 MiB`, `1_000b`.  Underscores
and upper case do not matter, and white space may stand around the number if a unit follows.
-/

import Marginalia.Cli.Number
import Marginalia.Text.Space

namespace Marginalia.Cli

open Marginalia.Text

/-- What is wrong with the text of a size. -/
inductive SizeError where
  | badNumber (number : String)
  | tooLarge (size : String)
deriving Repr, DecidableEq, Inhabited

/-- The wording of the fault. -/
def SizeError.message : SizeError → String
  | badNumber number => "Invalid size number: " ++ number
  | tooLarge size => "Size too large: " ++ size

/-- The number of bytes of a kilobyte, and of kilobytes of a megabyte, and so on. -/
def kilo : Nat := 1024

/-- The units with their values; where one ends in another, the longer comes first. -/
def sizeUnits : List (String × Nat) :=
  let mega := kilo * kilo
  let giga := kilo * mega
  let tera := kilo * giga
  [("tib", tera), ("tb", tera), ("t", tera), ("gib", giga), ("gb", giga), ("g", giga),
    ("mib", mega), ("mb", mega), ("m", mega), ("kib", kilo), ("kb", kilo), ("k", kilo), ("b", 1)]

/-- The text without the unit at its end. -/
def stripUnit? (unit : String) (text : List Char) : Option (List Char) :=
  if unit.toList.isSuffixOf text then some (text.take (text.length - unit.length)) else none

/-- The number and the value of the unit of a size in lower case.  A text without a unit is a number
of bytes as it stands. -/
def splitUnit (text : List Char) : List Char × Nat :=
  let found := sizeUnits.findSome? fun (unit, value) =>
    (stripUnit? unit text).map fun number => (trim number, value)
  found.getD (text, 1)

/-- Reads a size in bytes. -/
def parseSize (text : String) : Except SizeError Nat :=
  let size := (trim text.toList).filter (· != '_')
  let (number, unit) := splitUnit (size.map Char.toLower)
  match parseNumber number with
  | .error _ => .error (.badNumber (String.ofList number))
  | .ok value =>
    if value * unit < Json.wordLimit then .ok (value * unit)
    else .error (.tooLarge (String.ofList size))

end Marginalia.Cli
