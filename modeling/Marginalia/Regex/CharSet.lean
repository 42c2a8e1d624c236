/-
**Sets of characters.**

A set of characters comes with a weight, which is about the number of bytes that an automaton takes to
recognise a character of the set.

* `CharSet.ignoreCase` adds the characters that differ only in case.
* `CharSet.posix?` is a set of ASCII characters by its name in brackets.
* `CharSet.property?` is the set of characters with a property.
-/

import Marginalia.Text.CaseFold
import Marginalia.Text.Category
import Marginalia.Text.CharClass
import Marginalia.Text.Line
import Marginalia.Text.Script
import Marginalia.Text.Space

namespace Marginalia

open Marginalia.Text

/-- A set of characters. -/
structure CharSet where
  accepts : Char → Bool
  /-- About the number of bytes that an automaton takes for the set. -/
  weight : Nat

namespace CharSet

/-- The weight of one state of an automaton. -/
def stateWeight : Nat := 32

/-- The weight of a few states, which a set of characters of all lengths takes. -/
def smallWeight : Nat := 700

/-- The weight of a set of thousands of characters of all scripts. -/
def largeWeight : Nat := 60000

/-! ### Operations -/

/-- The set without characters. -/
def empty : CharSet where
  accepts := fun _ => false
  weight := 0

/-- The characters from one to another. -/
def range (first last : Char) : CharSet where
  accepts := fun c => first ≤ c && c ≤ last
  weight := stateWeight * byteLength [last]

/-- One character. -/
def single (c : Char) : CharSet :=
  range c c

/-- The characters of one of two sets. -/
def union (first second : CharSet) : CharSet where
  accepts := fun c => first.accepts c || second.accepts c
  weight := first.weight + second.weight

/-- The characters of both of two sets. -/
def intersection (first second : CharSet) : CharSet where
  accepts := fun c => first.accepts c && second.accepts c
  weight := first.weight + second.weight

/-- The characters of the first set that are not in the second one. -/
def difference (first second : CharSet) : CharSet where
  accepts := fun c => first.accepts c && !second.accepts c
  weight := first.weight + second.weight

/-- The characters of exactly one of two sets. -/
def symmetricDifference (first second : CharSet) : CharSet where
  accepts := fun c => first.accepts c != second.accepts c
  weight := first.weight + second.weight

/-- All other characters. -/
def complement (set : CharSet) : CharSet where
  accepts := fun c => !set.accepts c
  weight := set.weight + smallWeight

/-- The characters of some ranges. -/
def ofRanges (ranges : List (Char × Char)) : CharSet :=
  ranges.foldl (fun set (first, last) => set.union (range first last)) empty

/-- The letter in the other case, if the character is an ASCII letter. -/
def otherAsciiCase (c : Char) : Char :=
  if c.isUpper then c.toLower else c.toUpper

/-- The set with the characters that differ from its characters only in case; not all scripts, but
ASCII alone may count. -/
def ignoreCase (unicode : Bool) (set : CharSet) : CharSet where
  accepts := fun c =>
    if unicode then (caseVariants c).any set.accepts
    else set.accepts c || set.accepts (otherAsciiCase c)
  weight := 2 * set.weight

/-- Whether a set of ASCII characters and complements of such sets holds ASCII characters only. -/
def isAscii (set : CharSet) : Bool :=
  !set.accepts '\u0080'

/-! ### Sets by name -/

/-- Decimal digits. -/
def digit (unicode : Bool) : CharSet :=
  if unicode then
    { accepts := fun c => isDecimalDigit c && !isUnicode17 c, weight := 10 * smallWeight }
  else range '0' '9'

/-- White space. -/
def space (unicode : Bool) : CharSet :=
  if unicode then { accepts := isSpace, weight := smallWeight }
  else ofRanges [('\t', '\r'), (' ', ' ')]

/-- Characters that a word is made of. -/
def word (unicode : Bool) : CharSet :=
  if unicode then { accepts := isWordChar, weight := largeWeight }
  else ofRanges [('0', '9'), ('A', 'Z'), ('_', '_'), ('a', 'z')]

/-- The ranges of ASCII characters that a name in brackets stands for. -/
def posixRanges : List (String × List (Char × Char)) :=
  [("alnum", [('0', '9'), ('A', 'Z'), ('a', 'z')]),
   ("alpha", [('A', 'Z'), ('a', 'z')]),
   ("ascii", [('\x00', '\x7f')]),
   ("blank", [('\t', '\t'), (' ', ' ')]),
   ("cntrl", [('\x00', '\x1f'), ('\x7f', '\x7f')]),
   ("digit", [('0', '9')]),
   ("graph", [('!', '~')]),
   ("lower", [('a', 'z')]),
   ("print", [(' ', '~')]),
   ("punct", [('!', '/'), (':', '@'), ('[', '\x60'), ('\x7b', '~')]),
   ("space", [('\t', '\r'), (' ', ' ')]),
   ("upper", [('A', 'Z')]),
   ("word", [('0', '9'), ('A', 'Z'), ('_', '_'), ('a', 'z')]),
   ("xdigit", [('0', '9'), ('A', 'F'), ('a', 'f')])]

/-- The set of ASCII characters that a name in brackets stands for. -/
def posix? (name : String) : Option CharSet :=
  (posixRanges.lookup name).map ofRanges

/-- The characters of some categories. -/
def ofCategories (categories : List Category) : CharSet where
  accepts := fun c => categories.any (·.contains c)
  weight := largeWeight / 4 * categories.length

/-- Small letters that are not of the category of small letters. -/
def otherLowercaseTable : CodeTable :=
  [(0xaa, 0xaa), (0xba, 0xba), (0x2b0, 0x2b8), (0x2c0, 0x2c1), (0x2e0, 0x2e4), (0x345, 0x345),
   (0x37a, 0x37a), (0x10fc, 0x10fc), (0x1d2c, 0x1d6a), (0x1d78, 0x1d78), (0x1d9b, 0x1dbf),
   (0x2071, 0x2071), (0x207f, 0x207f), (0x2090, 0x209c), (0x2170, 0x217f), (0x24d0, 0x24e9),
   (0x2c7c, 0x2c7d), (0xa69c, 0xa69d), (0xa770, 0xa770), (0xa7f2, 0xa7f4), (0xa7f8, 0xa7f9),
   (0xab5c, 0xab5f), (0xab69, 0xab69), (0x10780, 0x10780), (0x10783, 0x10785), (0x10787, 0x107b0),
   (0x107b2, 0x107ba), (0x1e030, 0x1e06d)]

/-- Capital letters that are not of the category of capital letters. -/
def otherUppercaseTable : CodeTable :=
  [(0x2160, 0x216f), (0x24b6, 0x24cf), (0x1f130, 0x1f149), (0x1f150, 0x1f169), (0x1f170, 0x1f189)]

/-- The characters with a property that is no category, by its name. -/
def binaryProperty? (name : String) : Option CharSet :=
  if ["alphabetic", "alpha"].contains name then
    some { accepts := fun c => isAlphabetic c && !isUnicode17 c, weight := largeWeight }
  else if ["lowercase", "lower"].contains name then
    some ((ofCategories [.lowercaseLetter]).union
      { accepts := otherLowercaseTable.contains, weight := smallWeight })
  else if ["uppercase", "upper"].contains name then
    some ((ofCategories [.uppercaseLetter]).union
      { accepts := otherUppercaseTable.contains, weight := smallWeight })
  else if ["whitespace", "wspace", "space"].contains name then some (space true)
  else if ["asciihexdigit", "ahex"].contains name then posix? "xdigit"
  else none

/-- The characters of a general category, or of one of three larger sets, by its name. -/
def category? (name : String) : Option CharSet :=
  if name = "any" then some { accepts := fun _ => true, weight := smallWeight }
  else if name = "ascii" then posix? "ascii"
  else if name = "assigned" then
    some { accepts := fun c => !Category.unassigned.contains c, weight := largeWeight }
  else (Category.ofName? name).map ofCategories

/-- The characters of a script, by its name. -/
def script? (name : String) : Option CharSet :=
  (scriptOfName? name).map fun table => { accepts := table.contains, weight := smallWeight }

/-- A name in lower case without separators, and without a leading `is`. -/
def looseName (name : List Char) : String :=
  let loose (name : List Char) : List Char :=
    (name.filter fun c => c.toNat < 0x80 && c != ' ' && c != '_' && c != '-').map Char.toLower
  match name with
  | first :: second :: rest =>
    if first.toLower = 'i' && second.toLower = 's' then
      if loose rest = ['c'] then "isc" else String.ofList (loose rest)
    else String.ofList (loose name)
  | short => String.ofList (loose short)

/-- The characters with the property of a name. -/
def named? (name : String) : Option CharSet :=
  (binaryProperty? name).or ((category? name).or (script? name))

/-- The characters for which a property of a name has a value. -/
def valued? (name value : String) : Option CharSet :=
  if ["gc", "generalcategory"].contains name then category? value
  else if ["sc", "script", "scx", "scriptextensions"].contains name then script? value
  else none

/-- The characters with a property that is written as a name, or as a name and a value with a colon
or an equals sign between them; an exclamation mark before that sign takes all other characters. -/
def property? (text : List Char) : Option CharSet :=
  match (String.ofList text).splitOn "!=" with
  | name :: value :: rest =>
    let value := "!=".intercalate (value :: rest)
    (valued? (looseName name.toList) (looseName value.toList)).map complement
  | _ =>
    let mark := if text.contains ':' then ':' else '='
    match text.dropWhile (· != mark) with
    | _ :: value => valued? (looseName (text.takeWhile (· != mark))) (looseName value)
    | [] => named? (looseName text)

end CharSet

end Marginalia
