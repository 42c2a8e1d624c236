/-
**Reading JSON.**

`Json.parse?` reads a text that holds exactly one value.  A string may not hold control characters
or a lone half of a surrogate pair; a number has no superfluous zero in front.

Lists and objects may be nested up to a limit (`Json.nestingLimit`).  The readers take the number of
levels that are left, and a bound on the number of values and separators still to be read; the length
of the text is always enough for that, so `Json.parse?` never runs out.
-/

import Marginalia.Json.Number
import Marginalia.Text.Hex

namespace Marginalia.Json

open Marginalia.Text

/-- A blank between tokens. -/
def isBlank (c : Char) : Bool :=
  c == ' ' || c == '\n' || c == '\r' || c == '\t'

/-- The text behind its leading blanks. -/
def skipBlanks (text : List Char) : List Char :=
  text.dropWhile isBlank

/-- The unit of 16 bits that four hexadecimal digits spell. -/
def unit? (a b c d : Char) : Option Nat := do
  let a ← hexValue? a
  let b ← hexValue? b
  let c ← hexValue? c
  let d ← hexValue? d
  some (((a * 16 + b) * 16 + c) * 16 + d)

/-- The character that an escape letter other than `u` stands for. -/
def unescape? : Char → Option Char
  | '"' => some '"'
  | '\\' => some '\\'
  | '/' => some '/'
  | 'b' => some '\x08'
  | 'f' => some '\x0c'
  | 'n' => some '\n'
  | 'r' => some '\r'
  | 't' => some '\t'
  | _ => none

/-- The first half of a surrogate pair. -/
def isHighSurrogate (unit : Nat) : Bool :=
  0xd800 ≤ unit && unit < 0xdc00

/-- The second half of a surrogate pair. -/
def isLowSurrogate (unit : Nat) : Bool :=
  0xdc00 ≤ unit && unit < 0xe000

/-- The characters of a string up to its closing quotation mark. -/
def readStringBody? : List Char → Option (List Char × List Char)
  | [] => none
  | '"' :: rest => some ([], rest)
  | '\\' :: 'u' :: a :: b :: c :: d :: rest => do
    let unit ← unit? a b c d
    if isHighSurrogate unit then
      match rest with
      | '\\' :: 'u' :: e :: f :: g :: h :: more =>
        let low ← unit? e f g h
        if isLowSurrogate low then
          let (body, rest) ← readStringBody? more
          some (Char.ofNat (0x10000 + (unit - 0xd800) * 0x400 + (low - 0xdc00)) :: body, rest)
        else none
      | _ => none
    else if isLowSurrogate unit then none
    else
      let (body, rest) ← readStringBody? rest
      some (Char.ofNat unit :: body, rest)
  | '\\' :: letter :: rest => do
    let c ← unescape? letter
    let (body, rest) ← readStringBody? rest
    some (c :: body, rest)
  | c :: rest =>
    if c.toNat < 0x20 || c = '\\' then none
    else do
      let (body, rest) ← readStringBody? rest
      some (c :: body, rest)

/-- A string, behind its opening quotation mark. -/
def readString? (text : List Char) : Option (String × List Char) :=
  (readStringBody? text).map fun (body, rest) => (String.ofList body, rest)

/-- A word such as `null`. -/
def readWord? (word : String) (value : Json) (text : List Char) : Option (Json × List Char) :=
  if word.toList.isPrefixOf text then some (value, text.drop word.length) else none

/-- How many lists and objects may be open at the same time. -/
def nestingLimit : Nat := 127

mutual

/-- A value, blanks in front of it allowed. -/
def readValue? (levels : Nat) : Nat → List Char → Option (Json × List Char)
  | 0, _ => none
  | fuel + 1, text =>
    match skipBlanks text with
    | '"' :: rest => (readString? rest).map fun (value, rest) => (.str value, rest)
    | '[' :: rest =>
      if levels = 0 then none
      else
        match skipBlanks rest with
        | ']' :: rest => some (.arr [], rest)
        | rest => (readItems? (levels - 1) fuel rest).map fun (items, rest) => (.arr items, rest)
    | '{' :: rest =>
      if levels = 0 then none
      else
        match skipBlanks rest with
        | '}' :: rest => some (.obj [], rest)
        | rest => (readMembers? (levels - 1) fuel rest).map fun (members, rest) =>
          (.obj (Members.ofList members), rest)
    | '-' :: rest => readNumber? true rest
    | c :: rest =>
      if c.isDigit then readNumber? false (c :: rest)
      else if c = 'n' then readWord? "null" .null (c :: rest)
      else if c = 't' then readWord? "true" (.bool true) (c :: rest)
      else if c = 'f' then readWord? "false" (.bool false) (c :: rest)
      else none
    | [] => none

/-- Items up to the bracket that closes the list. -/
def readItems? (levels : Nat) : Nat → List Char → Option (List Json × List Char)
  | 0, _ => none
  | fuel + 1, text => do
    let (item, rest) ← readValue? levels fuel text
    match skipBlanks rest with
    | ',' :: rest =>
      let (items, rest) ← readItems? levels fuel rest
      some (item :: items, rest)
    | ']' :: rest => some ([item], rest)
    | _ => none

/-- Members up to the brace that closes the object. -/
def readMembers? (levels : Nat) : Nat → List Char → Option (List (String × Json) × List Char)
  | 0, _ => none
  | fuel + 1, text => do
    let .cons '"' rest := skipBlanks text | none
    let (key, rest) ← readString? rest
    let .cons ':' rest := skipBlanks rest | none
    let (value, rest) ← readValue? levels fuel rest
    match skipBlanks rest with
    | ',' :: rest =>
      let (members, rest) ← readMembers? levels fuel rest
      some ((key, value) :: members, rest)
    | '}' :: rest => some ([(key, value)], rest)
    | _ => none

end

/-- Reads a text that holds exactly one value. -/
def parse? (text : String) : Option Json := do
  let chars := text.toList
  let (value, rest) ← readValue? nestingLimit (2 * chars.length + 1) chars
  if (skipBlanks rest).isEmpty then some value else none

end Marginalia.Json
