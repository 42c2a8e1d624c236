/-
**Writing YAML scalars.**

A text is written in the plainest style that reads back as the same text:

* a text of several lines as a literal block (`|`), one line as it stands;
* between single quotes where a line would be read as something else or would be taken for a part
  of the structure;
* between double quotes, with escapes, where the other styles cannot hold it.

Besides the line feed, U+2028 and U+2029 count as line breaks; they are written as they are, and the
line after them is indented like any other.
-/

import Marginalia.Yaml.Resolve

namespace Marginalia.Yaml

/-- A character that ends a line. -/
def isBreak (c : Char) : Bool :=
  c == '\n' || c == '\r' || c == '\u0085' || c == '\u2028' || c == '\u2029'

/-- A character that may stand in a document as it is. -/
def isPrintable (c : Char) : Bool :=
  c == '\n' || (0x20 ≤ c.toNat && c.toNat ≤ 0x7e)
    || (0xa0 ≤ c.toNat && c != '\ufeff' && c != '\ufffe' && c != '\uffff')

/-- Whether nothing, a blank, a line break or a zero stands at the start of a text. -/
def startsBlank : List Char → Bool
  | [] => true
  | c :: _ => c == ' ' || c == '\t' || c == '\x00' || isBreak c

/-- The characters that may not start a plain text. -/
def indicators : List Char :=
  ['#', ',', '[', ']', '{', '}', '&', '*', '!', '|', '>', '\'', '"', '%', '@', '\x60']

/-- Whether the first character would be taken for a part of the structure. -/
def startsIndicated : List Char → Bool
  | [] => false
  | c :: rest =>
    indicators.contains c || ((c == '?' || c == ':' || c == '-') && startsBlank rest)

/-- Whether a character behind the first would be taken for a part of the structure: a colon before
a blank, or a number sign behind one. -/
def holdsIndicator : List Char → Bool
  | [] => false
  | [_] => false
  | previous :: c :: rest =>
    (c == ':' && startsBlank rest) || (c == '#' && startsBlank [previous])
      || holdsIndicator (c :: rest)

/-- Whether a text starts like the line between two documents. -/
def startsDocument (text : List Char) : Bool :=
  ['-', '-', '-'].isPrefixOf text || ['.', '.', '.'].isPrefixOf text

/-- Whether two neighbouring characters have the properties, one each. -/
def hasNeighbours (first second : Char → Bool) : List Char → Bool
  | [] => false
  | [_] => false
  | c :: next :: rest => (first c && second next) || hasNeighbours first second (next :: rest)

/-- A space. -/
def isSpace (c : Char) : Bool :=
  c == ' '

/-- Whether only double quotes can hold the text: it has a space before a line break, or a
character that may not stand as it is. -/
def needsEscapes (text : List Char) : Bool :=
  text.any (!isPrintable ·) || hasNeighbours isSpace isBreak text

/-- Whether a text may stand without quotes. -/
def allowsPlain (text : List Char) : Bool :=
  !needsEscapes text && !text.any isBreak && !text.head?.any isSpace && !text.getLast?.any isSpace
    && !startsDocument text && !startsIndicated text && !holdsIndicator text

/-- Whether a text may stand between single quotes. -/
def allowsSingleQuoted (text : List Char) : Bool :=
  !needsEscapes text && !hasNeighbours isBreak isSpace text

/-- Whether a text may stand in a literal block. -/
def allowsLiteral (text : List Char) : Bool :=
  !needsEscapes text && !text.getLast?.any isSpace

/-- How a scalar is written. -/
inductive Style where
  | plain
  | singleQuoted
  | doubleQuoted
  | literal
deriving Repr, DecidableEq, Inhabited

/-- The style of a text. -/
def Style.ofText (text : String) : Style :=
  let chars := text.toList
  if chars.contains '\n' then if allowsLiteral chars then literal else doubleQuoted
  else if resolvesToText text && allowsPlain chars then plain
  else if allowsSingleQuoted chars then singleQuoted
  else doubleQuoted

/-- Spaces in front of a line. -/
def indentation (width : Nat) : List Char :=
  List.replicate width ' '

/-- Lines of which all but empty ones are indented; `fresh` says that a line starts here. -/
def writeIndented (width : Nat) (fresh : Bool) : List Char → List Char
  | [] => []
  | c :: rest =>
    if isBreak c then c :: writeIndented width true rest
    else (if fresh then indentation width else []) ++ c :: writeIndented width false rest

/-- A text between single quotes, which are doubled inside. -/
def writeSingleQuoted (width : Nat) (text : List Char) : List Char :=
  let doubled := text.flatMap fun c => if c = '\'' then ['\'', '\''] else [c]
  '\'' :: writeIndented width false (doubled ++ ['\''])

/-- The digits of a number in base sixteen, in upper case, filled up with zeros to a width. -/
def upperHex (width value : Nat) : List Char :=
  let digits := (Nat.toDigits 16 value).map Char.toUpper
  List.replicate (width - digits.length) '0' ++ digits

/-- The characters that have an escape of their own. -/
def shortEscapes : List (Char × Char) :=
  [('\x00', '0'), ('\x07', 'a'), ('\x08', 'b'), ('\t', 't'), ('\n', 'n'), ('\x0b', 'v'),
    ('\x0c', 'f'), ('\r', 'r'), ('\x1b', 'e'), ('"', '"'), ('\\', '\\'), ('\u0085', 'N'),
    ('\u2028', 'L'), ('\u2029', 'P')]

/-- How a character stands between double quotes. -/
def escapeChar (c : Char) : List Char :=
  if isPrintable c && !isBreak c && c != '"' && c != '\\' then [c]
  else
    match shortEscapes.lookup c with
    | some letter => ['\\', letter]
    | none =>
      if c.toNat ≤ 0xff then '\\' :: 'x' :: upperHex 2 c.toNat
      else if c.toNat ≤ 0xffff then '\\' :: 'u' :: upperHex 4 c.toNat
      else '\\' :: 'U' :: upperHex 8 c.toNat

/-- A text between double quotes. -/
def writeDoubleQuoted (text : List Char) : List Char :=
  '"' :: text.flatMap escapeChar ++ ['"']

/-- Whether a line starts behind the text. -/
def endsLine (text : List Char) : Bool :=
  text.getLast?.any isBreak

/-- The header of a literal block.  A digit gives the indentation if the text starts with a space or
an empty line; a minus sign tells that the last line has no break, a plus sign that empty lines
follow it. -/
def literalHeader (text : List Char) : List Char :=
  let hint := if text.head?.any fun c => isSpace c || isBreak c then ['2'] else []
  let chomp :=
    if !endsLine text then ['-']
    else if text.length = 1 || endsLine text.dropLast then ['+']
    else []
  '|' :: hint ++ chomp

/-- A text as a literal block. -/
def writeLiteral (width : Nat) (text : List Char) : List Char :=
  literalHeader text ++ '\n' :: writeIndented width true text

/-- A text as the value of a key, up to the end of its last line.  The lines behind the first are
indented by `width`. -/
def writeScalar (width : Nat) (text : String) : List Char :=
  let chars := text.toList
  match Style.ofText text with
  | .plain => chars ++ ['\n']
  | .singleQuoted => writeSingleQuoted width chars ++ ['\n']
  | .doubleQuoted => writeDoubleQuoted chars ++ ['\n']
  | .literal => writeLiteral width chars ++ if endsLine chars then [] else ['\n']

end Marginalia.Yaml
