/-
**General categories.**

Every code point has one general category, which has a name of two letters and a long name; the first
letter alone names several categories that belong together.  The tables follow version 16 of the
Unicode standard.

* `Category.contains` tells whether a character belongs to a category.
* `Category.ofName?` finds the categories of a name.
-/

import Marginalia.Text.Category.Letter
import Marginalia.Text.Category.Mark
import Marginalia.Text.Category.Number
import Marginalia.Text.Category.Punctuation
import Marginalia.Text.Category.Symbol

namespace Marginalia.Text

/-- A general category. -/
inductive Category where
  | uppercaseLetter
  | lowercaseLetter
  | titlecaseLetter
  | modifierLetter
  | otherLetter
  | nonspacingMark
  | spacingMark
  | enclosingMark
  | decimalNumber
  | letterNumber
  | otherNumber
  | connectorPunctuation
  | dashPunctuation
  | openPunctuation
  | closePunctuation
  | initialPunctuation
  | finalPunctuation
  | otherPunctuation
  | mathSymbol
  | currencySymbol
  | modifierSymbol
  | otherSymbol
  | spaceSeparator
  | lineSeparator
  | paragraphSeparator
  | control
  | format
  | privateUse
  | unassigned
deriving Repr, DecidableEq, Inhabited

/-- Spaces, the general category Zs. -/
def spaceSeparatorTable : CodeTable :=
  [(0x20, 0x20), (0xa0, 0xa0), (0x1680, 0x1680), (0x2000, 0x200a), (0x202f, 0x202f),
   (0x205f, 0x205f), (0x3000, 0x3000)]

/-- Format controls, the general category Cf. -/
def formatTable : CodeTable :=
  [(0xad, 0xad), (0x600, 0x605), (0x61c, 0x61c), (0x6dd, 0x6dd), (0x70f, 0x70f), (0x890, 0x891),
   (0x8e2, 0x8e2), (0x180e, 0x180e), (0x200b, 0x200f), (0x202a, 0x202e), (0x2060, 0x2064),
   (0x2066, 0x206f), (0xfeff, 0xfeff), (0xfff9, 0xfffb), (0x110bd, 0x110bd), (0x110cd, 0x110cd),
   (0x13430, 0x1343f), (0x1bca0, 0x1bca3), (0x1d173, 0x1d17a), (0xe0001, 0xe0001),
   (0xe0020, 0xe007f)]

/-- Characters for private use, the general category Co. -/
def privateUseTable : CodeTable :=
  [(0xe000, 0xf8ff), (0xf0000, 0xffffd), (0x100000, 0x10fffd)]

namespace Category

/-- Whether an assigned character belongs to a category. -/
def holdsAssigned (c : Char) : Category → Bool
  | uppercaseLetter => uppercaseLetterTable.contains c
  | lowercaseLetter => lowercaseLetterTable.contains c
  | titlecaseLetter => titlecaseLetterTable.contains c
  | modifierLetter => modifierLetterTable.contains c
  | otherLetter => otherLetterTable.contains c
  | nonspacingMark => nonspacingMarkTable.contains c
  | spacingMark => spacingMarkTable.contains c
  | enclosingMark => enclosingMarkTable.contains c
  | decimalNumber => decimalNumberTable.contains c
  | letterNumber => letterNumberTable.contains c
  | otherNumber => otherNumberTable.contains c
  | connectorPunctuation => connectorPunctuationTable.contains c
  | dashPunctuation => dashPunctuationTable.contains c
  | openPunctuation => openPunctuationTable.contains c
  | closePunctuation => closePunctuationTable.contains c
  | initialPunctuation => initialPunctuationTable.contains c
  | finalPunctuation => finalPunctuationTable.contains c
  | otherPunctuation => otherPunctuationTable.contains c
  | mathSymbol => mathSymbolTable.contains c
  | currencySymbol => currencySymbolTable.contains c
  | modifierSymbol => modifierSymbolTable.contains c
  | otherSymbol => otherSymbolTable.contains c
  | spaceSeparator => spaceSeparatorTable.contains c
  | lineSeparator => c.toNat == 0x2028
  | paragraphSeparator => c.toNat == 0x2029
  | control => c.toNat < 0x20 || (0x7f ≤ c.toNat && c.toNat ≤ 0x9f)
  | format => formatTable.contains c
  | privateUse => privateUseTable.contains c
  | unassigned => false

/-- All categories of assigned characters. -/
def assigned : List Category :=
  [uppercaseLetter, lowercaseLetter, titlecaseLetter, modifierLetter, otherLetter, nonspacingMark,
   spacingMark, enclosingMark, decimalNumber, letterNumber, otherNumber, connectorPunctuation,
   dashPunctuation, openPunctuation, closePunctuation, initialPunctuation, finalPunctuation,
   otherPunctuation, mathSymbol, currencySymbol, modifierSymbol, otherSymbol, spaceSeparator,
   lineSeparator, paragraphSeparator, control, format, privateUse]

/-- Whether a character belongs to a category; unassigned are those that belong to no other one. -/
def contains (category : Category) (c : Char) : Bool :=
  match category with
  | unassigned => !assigned.any (holdsAssigned c)
  | category => category.holdsAssigned c

/-- The categories with their names, in lower case and without separators. -/
def names : List (List String × List Category) :=
  [(["lu", "uppercaseletter"], [uppercaseLetter]),
   (["ll", "lowercaseletter"], [lowercaseLetter]),
   (["lt", "titlecaseletter"], [titlecaseLetter]),
   (["lm", "modifierletter"], [modifierLetter]),
   (["lo", "otherletter"], [otherLetter]),
   (["mn", "nonspacingmark"], [nonspacingMark]),
   (["mc", "spacingmark"], [spacingMark]),
   (["me", "enclosingmark"], [enclosingMark]),
   (["nd", "decimalnumber", "digit"], [decimalNumber]),
   (["nl", "letternumber"], [letterNumber]),
   (["no", "othernumber"], [otherNumber]),
   (["pc", "connectorpunctuation"], [connectorPunctuation]),
   (["pd", "dashpunctuation"], [dashPunctuation]),
   (["ps", "openpunctuation"], [openPunctuation]),
   (["pe", "closepunctuation"], [closePunctuation]),
   (["pi", "initialpunctuation"], [initialPunctuation]),
   (["pf", "finalpunctuation"], [finalPunctuation]),
   (["po", "otherpunctuation"], [otherPunctuation]),
   (["sm", "mathsymbol"], [mathSymbol]),
   (["sc", "currencysymbol"], [currencySymbol]),
   (["sk", "modifiersymbol"], [modifierSymbol]),
   (["so", "othersymbol"], [otherSymbol]),
   (["zs", "spaceseparator"], [spaceSeparator]),
   (["zl", "lineseparator"], [lineSeparator]),
   (["zp", "paragraphseparator"], [paragraphSeparator]),
   (["cc", "control", "cntrl"], [control]),
   (["cf", "format"], [format]),
   (["co", "privateuse"], [privateUse]),
   (["cn", "unassigned"], [unassigned]),
   (["cs", "surrogate"], []),
   (["l", "letter"],
    [uppercaseLetter, lowercaseLetter, titlecaseLetter, modifierLetter, otherLetter]),
   (["lc", "casedletter"],
    [uppercaseLetter, lowercaseLetter, titlecaseLetter]),
   (["m", "mark", "combiningmark"],
    [nonspacingMark, spacingMark, enclosingMark]),
   (["n", "number"],
    [decimalNumber, letterNumber, otherNumber]),
   (["p", "punctuation", "punct"],
    [connectorPunctuation, dashPunctuation, openPunctuation, closePunctuation, initialPunctuation,
     finalPunctuation, otherPunctuation]),
   (["s", "symbol"],
    [mathSymbol, currencySymbol, modifierSymbol, otherSymbol]),
   (["z", "separator"],
    [spaceSeparator, lineSeparator, paragraphSeparator]),
   (["c", "other"],
    [control, format, privateUse, unassigned])]

/-- The categories that a name stands for. -/
def ofName? (name : String) : Option (List Category) :=
  (names.find? fun entry => entry.1.contains name).map (·.2)

end Category

end Marginalia.Text
