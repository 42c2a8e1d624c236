/-
**Quoted text for messages.**

`quoted` shows a text between quotation marks so that a reader can tell every character apart: the
quotation mark, the backslash and the common control characters have short escapes, and a character
that cannot be shown, or that would attach itself to the one before it, is written as its code point
in hexadecimal between braces.
-/

import Marginalia.Text.GraphemeExtend
import Marginalia.Text.Printable

namespace Marginalia.Text

/-- A code point in hexadecimal, as an escape. -/
def codeEscape (c : Char) : List Char :=
  '\\' :: 'u' :: '\x7b' :: Nat.toDigits 16 c.toNat ++ ['\x7d']

/-- How a character stands in a quoted text. -/
def quotedChar (c : Char) : List Char :=
  if c = '\x00' then ['\\', '0']
  else if c = '\t' then ['\\', 't']
  else if c = '\r' then ['\\', 'r']
  else if c = '\n' then ['\\', 'n']
  else if c = '\\' || c = '"' then ['\\', c]
  else if isGraphemeExtend c || !isPrintable c then codeEscape c
  else [c]

/-- The text between quotation marks. -/
def quoted (text : String) : String :=
  String.ofList ('"' :: text.toList.flatMap quotedChar ++ ['"'])

end Marginalia.Text
