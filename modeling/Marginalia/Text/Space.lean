/-
**White space, and trimming it off a text.**

`isSpace` is the Unicode property White_Space.  Texts are lists of characters here; the part that
has been read of a line is kept nearest character first, so trimming its end is `dropWhile` from
the head.
-/

namespace Marginalia.Text

/-- A character with the property White_Space. -/
def isSpace (c : Char) : Bool :=
  (0x09 ≤ c.toNat && c.toNat ≤ 0x0d) || c.toNat == 0x20 || c.toNat == 0x85 || c.toNat == 0xa0
    || c.toNat == 0x1680 || (0x2000 ≤ c.toNat && c.toNat ≤ 0x200a)
    || (0x2028 ≤ c.toNat && c.toNat ≤ 0x2029) || c.toNat == 0x202f || c.toNat == 0x205f
    || c.toNat == 0x3000

/-- The text without the longest ending whose characters all satisfy `drop`. -/
def dropEndWhile (drop : Char → Bool) (text : List Char) : List Char :=
  (text.reverse.dropWhile drop).reverse

/-- The text without white space at its end. -/
def trimEnd (text : List Char) : List Char :=
  dropEndWhile isSpace text

/-- The text without white space at either end. -/
def trim (text : List Char) : List Char :=
  trimEnd (text.dropWhile isSpace)

/-- A character that ends a line. -/
def isLineBreak (c : Char) : Bool :=
  c == '\n' || c == '\r'

/-- The line without the line feeds and carriage returns at its end. -/
def dropLineBreaks (line : List Char) : List Char :=
  dropEndWhile isLineBreak line

end Marginalia.Text
