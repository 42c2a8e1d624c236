/-
**Letters, numbers and word characters.**

`isAlphanumeric` is Alphabetic or numeric.  `isWordChar` is the wider class that names in patterns
are made of: Alphabetic, marks, decimal digits, connector punctuation and the two join controls.
Patterns do not know the characters of version 17 of the standard.
-/

import Marginalia.Text.Alphabetic
import Marginalia.Text.Numeric
import Marginalia.Text.Mark
import Marginalia.Text.Unicode17

namespace Marginalia.Text

/-- A letter or a number of any script. -/
def isAlphanumeric (c : Char) : Bool :=
  isAlphabetic c || isNumeric c

/-- Connector punctuation, the general category Pc, from U+0080 up. -/
def connectorTable : CodeTable :=
  [(0x203f, 0x2040), (0x2054, 0x2054), (0xfe33, 0xfe34), (0xfe4d, 0xfe4f), (0xff3f, 0xff3f)]

/-- Connector punctuation; the low line is the only one in ASCII. -/
def isConnector (c : Char) : Bool :=
  if c.toNat < 0x80 then c == '_' else connectorTable.contains c

/-- Zero width non-joiner and zero width joiner. -/
def isJoinControl (c : Char) : Bool :=
  c.toNat == 0x200c || c.toNat == 0x200d

/-- A character that a word is made of. -/
def isWordChar (c : Char) : Bool :=
  (isAlphabetic c || isMark c || isDecimalDigit c || isConnector c || isJoinControl c)
    && !isUnicode17 c

end Marginalia.Text
