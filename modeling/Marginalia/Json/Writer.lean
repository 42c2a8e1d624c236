/-
**Writing JSON.**

* `Json.compact` writes a value on one line without blanks.
* `Json.pretty` writes one member or item per line, indented by two spaces per level.

Both escape the quotation mark, the backslash and the control characters below U+0020 in strings,
and nothing else.
-/

import Marginalia.Decimal.Shortest
import Marginalia.Json.Basic

namespace Marginalia.Json

/-- The lower-case hexadecimal digit of a number below sixteen. -/
def hexDigit (value : Nat) : Char :=
  Nat.digitChar value

/-- How a character stands inside a string. -/
def escapeChar (c : Char) : List Char :=
  if c = '"' then ['\\', '"']
  else if c = '\\' then ['\\', '\\']
  else if c = '\x08' then ['\\', 'b']
  else if c = '\x0c' then ['\\', 'f']
  else if c = '\n' then ['\\', 'n']
  else if c = '\r' then ['\\', 'r']
  else if c = '\t' then ['\\', 't']
  else if c.toNat < 0x20 then
    ['\\', 'u', '0', '0', hexDigit (c.toNat / 16), hexDigit (c.toNat % 16)]
  else [c]

/-- A string between quotation marks. -/
def writeString (text : String) : List Char :=
  '"' :: text.toList.flatMap escapeChar ++ ['"']

/-- The decimal digits of a number. -/
def writeNat (value : Nat) : List Char :=
  Nat.toDigits 10 value

/-- A whole number. -/
def writeInt : Int → List Char
  | .ofNat value => writeNat value
  | .negSucc value => '-' :: writeNat (value + 1)

/-- The most digits before the point that are written without an exponent. -/
def mostWholeDigits : Int := 16

/-- The most zeros right behind the point that are written without an exponent. -/
def mostLeadingZeros : Int := 4

/-- The exponent of a number, always with a sign. -/
def writeExponent (exponent : Int) : List Char :=
  if exponent < 0 then writeInt exponent else '+' :: writeInt exponent

/-- Digits with the point behind the first `point` of them, or with zeros in front of them if that
number is not positive; with an exponent if too many zeros or digits would be needed. -/
def writeDigits (digits : List Char) (point : Int) : List Char :=
  let length : Int := digits.length
  if length ≤ point && point ≤ mostWholeDigits then
    digits ++ List.replicate (point - length).toNat '0' ++ ['.', '0']
  else if 0 < point && point ≤ mostWholeDigits then
    digits.take point.toNat ++ '.' :: digits.drop point.toNat
  else if -mostLeadingZeros ≤ point && point ≤ 0 then
    '0' :: '.' :: List.replicate (-point).toNat '0' ++ digits
  else
    let mantissa := match digits with
      | first :: next :: rest => first :: '.' :: next :: rest
      | short => short
    mantissa ++ 'e' :: writeExponent (point - 1)

/-- A binary number without its sign. -/
def writeMagnitude (magnitude : Decimal.Binary) : List Char :=
  if magnitude.isZero then ['0', '.', '0']
  else
    let (significand, exponent) := Decimal.shortest magnitude
    let digits := writeNat significand
    let kept := (digits.reverse.dropWhile (· == '0')).reverse
    writeDigits kept (digits.length + exponent)

/-- A binary number with its sign. -/
def writeFloat (negative : Bool) (magnitude : Decimal.Binary) : List Char :=
  if negative then '-' :: writeMagnitude magnitude else writeMagnitude magnitude

mutual

/-- A value on one line, without blanks. -/
def writeCompact : Json → List Char
  | .null => "null".toList
  | .bool true => "true".toList
  | .bool false => "false".toList
  | .int value => writeInt value
  | .float negative magnitude => writeFloat negative magnitude
  | .str text => writeString text
  | .arr items => '[' :: writeItems items ++ [']']
  | .obj members => '{' :: writeMembers members ++ ['}']

/-- Items with a comma between them. -/
def writeItems : List Json → List Char
  | [] => []
  | [item] => writeCompact item
  | item :: next :: rest => writeCompact item ++ ',' :: writeItems (next :: rest)

/-- Members with a comma between them. -/
def writeMembers : List (String × Json) → List Char
  | [] => []
  | [(key, value)] => writeString key ++ ':' :: writeCompact value
  | (key, value) :: next :: rest =>
    writeString key ++ ':' :: writeCompact value ++ ',' :: writeMembers (next :: rest)

end

/-- A line break and the indentation of a level. -/
def newLine (level : Nat) : List Char :=
  '\n' :: List.replicate (2 * level) ' '

mutual

/-- A value at a level of nesting, one item or member per line. -/
def writePretty (level : Nat) : Json → List Char
  | .arr [] => ['[', ']']
  | .arr items => '[' :: writePrettyItems (level + 1) items ++ newLine level ++ [']']
  | .obj [] => ['{', '}']
  | .obj members => '{' :: writePrettyMembers (level + 1) members ++ newLine level ++ ['}']
  | other => writeCompact other

/-- Items, each on a line of its own. -/
def writePrettyItems (level : Nat) : List Json → List Char
  | [] => []
  | [item] => newLine level ++ writePretty level item
  | item :: next :: rest =>
    newLine level ++ writePretty level item ++ ',' :: writePrettyItems level (next :: rest)

/-- Members, each on a line of its own. -/
def writePrettyMembers (level : Nat) : List (String × Json) → List Char
  | [] => []
  | [(key, value)] => newLine level ++ writeString key ++ ':' :: ' ' :: writePretty level value
  | (key, value) :: next :: rest =>
    newLine level ++ writeString key ++ ':' :: ' ' :: writePretty level value
      ++ ',' :: writePrettyMembers level (next :: rest)

end

/-- A value on one line. -/
def compact (value : Json) : String :=
  String.ofList (writeCompact value)

/-- A value with one item or member per line. -/
def pretty (value : Json) : String :=
  String.ofList (writePretty 0 value)

end Marginalia.Json
