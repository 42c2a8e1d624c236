/-
**Escapes in expressions.**

A backslash gives a letter a meaning of its own and takes it from a punctuation mark.

* `readEscape?` reads what follows a backslash.
-/

import Marginalia.Regex.CharSet
import Marginalia.Regex.Flags
import Marginalia.Text.Hex

namespace Marginalia.Regex

open Marginalia.Text

/-- What a single character or an escape stands for. -/
inductive Primitive where
  /-- A character. -/
  | literal (c : Char)
  /-- One of a set of characters. -/
  | set (set : CharSet)
  /-- A condition on the characters before and behind a place. -/
  | assertion (holds : Option Char → Option Char → Bool)

/-! ### Conditions on a place -/

/-- The start of the text. -/
def isTextStart (before _after : Option Char) : Bool :=
  before.isNone

/-- The end of the text. -/
def isTextEnd (_before after : Option Char) : Bool :=
  after.isNone

/-- The start of a line. -/
def isLineStart (returns : Bool) (before after : Option Char) : Bool :=
  before.isNone || before == some '\n'
    || (returns && before == some '\r' && after != some '\n')

/-- The end of a line. -/
def isLineEnd (returns : Bool) (before after : Option Char) : Bool :=
  if returns then
    after.isNone || after == some '\r' || (after == some '\n' && before != some '\r')
  else after.isNone || after == some '\n'

/-- A condition on whether there is a word before a place and behind it. -/
def wordCondition (flags : Flags) (holds : Bool → Bool → Bool) : Primitive :=
  let isWord (neighbour : Option Char) : Bool := neighbour.any (CharSet.word flags.unicode).accepts
  .assertion fun before after => holds (isWord before) (isWord after)

/-- The start or the end of a word. -/
def wordBoundary (before after : Bool) : Bool := before != after

/-- No start and no end of a word. -/
def noWordBoundary (before after : Bool) : Bool := before == after

/-- The start of a word. -/
def wordStart (before after : Bool) : Bool := !before && after

/-- The end of a word. -/
def wordEnd (before after : Bool) : Bool := before && !after

/-- The condition on words of a name in braces. -/
def namedBoundary? (name : String) : Option (Bool → Bool → Bool) :=
  if name = "start" then some wordStart
  else if name = "end" then some wordEnd
  else if name = "start-half" then some fun before _ => !before
  else if name = "end-half" then some fun _ after => !after
  else none

/-- A character of a name in braces. -/
def isBoundaryLetter (c : Char) : Bool :=
  c.isAlpha || c == '-'

/-- Reads what may follow the escape for the boundary of a word: a name in braces.  Braces with
anything else in them are left alone. -/
def readBoundary? (flags : Flags) (text : List Char) : Option (Primitive × List Char) :=
  match text with
  | '{' :: rest =>
    match skip flags.free rest with
    | [] => none
    | c :: more =>
      if isBoundaryLetter c then
        match gather flags.free isBoundaryLetter text.length (c :: more) with
        | (name, '}' :: rest) =>
          (namedBoundary? (String.ofList name)).map fun holds => (wordCondition flags holds, rest)
        | _ => none
      else some (wordCondition flags wordBoundary, text)
  | _ => some (wordCondition flags wordBoundary, text)

/-! ### Characters by number, and sets -/

/-- The character of a number; numbers beyond the last character and of halves of pairs are none. -/
def charOfNumber? (number : Nat) : Option Char :=
  if number.isValidChar then some (Char.ofNat number) else none

/-- Reads the number of a character: as many hexadecimal digits as the letter asks for, or any number
of them in braces.  Without scripts, two digits are a byte, which must be of ASCII. -/
def readNumber? (flags : Flags) (letter : Char) (text : List Char) :
    Option (Primitive × List Char) :=
  match skip flags.free text with
  | '{' :: rest =>
    match gather flags.free (· != '}') text.length (skip flags.free rest) with
    | (digits, _ :: rest) => do
      let c ← charOfNumber? (← hexNumber? digits)
      some (.literal c, skip flags.free rest)
    | _ => none
  | text => do
    let count := if letter = 'x' then 2 else if letter = 'u' then 4 else 8
    let (digits, rest) := gather flags.free isHexDigit count text
    if digits.length < count then none
    let c ← charOfNumber? (← hexNumber? digits)
    if letter = 'x' && !flags.unicode && 0x80 ≤ c.toNat then none
    some (.literal c, rest)

/-- Reads the name of a property: one letter, or a name in braces. -/
def readProperty? (flags : Flags) (negated : Bool) (text : List Char) :
    Option (Primitive × List Char) := do
  let (name, rest) ← match skip flags.free text with
    | '{' :: rest =>
      match gather flags.free (· != '}') text.length (skip flags.free rest) with
      | (name, _ :: rest) => some (name, rest)
      | _ => none
    | c :: rest => if c = '\\' then none else some ([c], skip flags.free rest)
    | [] => none
  if !flags.unicode then none
  let set ← CharSet.property? name
  let set := if flags.caseless then set.ignoreCase true else set
  some (.set (if negated then set.complement else set), rest)

/-- A set of digits, white space or characters of words; without scripts, all others are no set of
characters. -/
def perlSet? (flags : Flags) (set : CharSet) (negated : Bool) : Option Primitive :=
  if negated then if flags.unicode then some (.set set.complement) else none
  else some (.set set)

/-- A punctuation mark or another ASCII character that an escape stands for itself. -/
def isPlainEscape (c : Char) : Bool :=
  c.toNat < 0x80 && !c.isAlphanum && c != '<' && c != '>'

/-- Reads what follows a backslash. -/
def readEscape? (flags : Flags) : List Char → Option (Primitive × List Char)
  | [] => none
  | c :: rest =>
    if isPlainEscape c then some (.literal c, rest)
    else
      match c with
      | 'x' | 'u' | 'U' => readNumber? flags c rest
      | 'p' => readProperty? flags false rest
      | 'P' => readProperty? flags true rest
      | 'd' => (perlSet? flags (.digit flags.unicode) false).map (·, rest)
      | 'D' => (perlSet? flags (.digit flags.unicode) true).map (·, rest)
      | 's' => (perlSet? flags (.space flags.unicode) false).map (·, rest)
      | 'S' => (perlSet? flags (.space flags.unicode) true).map (·, rest)
      | 'w' => (perlSet? flags (.word flags.unicode) false).map (·, rest)
      | 'W' => (perlSet? flags (.word flags.unicode) true).map (·, rest)
      | 'a' => some (.literal '\x07', rest)
      | 'f' => some (.literal '\x0c', rest)
      | 't' => some (.literal '\t', rest)
      | 'n' => some (.literal '\n', rest)
      | 'r' => some (.literal '\r', rest)
      | 'v' => some (.literal '\x0b', rest)
      | 'A' => some (.assertion isTextStart, rest)
      | 'z' => some (.assertion isTextEnd, rest)
      | 'b' => readBoundary? flags rest
      | 'B' => some (wordCondition flags noWordBoundary, rest)
      | '<' => some (wordCondition flags wordStart, rest)
      | '>' => some (wordCondition flags wordEnd, rest)
      | _ => none

end Marginalia.Regex
