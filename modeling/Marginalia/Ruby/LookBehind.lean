/-
**What the text before a symbol says about the symbol.**

A slash, a percent sign, a question mark or a double less-than sign starts a literal in some places
and is an operator in others.  No parse decides this here: the nearest characters before the symbol
do.  That text is given nearest character first.

* `startsOperand` tells whether an operand can start at the symbol.
* `followsValue` tells whether a value ends just before it.
-/

import Marginalia.Text.Space

namespace Marginalia.Ruby

open Marginalia.Text

/-- A character of an identifier; every character beyond ASCII is one. -/
def isIdentChar (c : Char) : Bool :=
  if c.toNat < 0x80 then c.isAlphanum || c == '_' else true

/-- Words after which an operand follows, so that they are not values. -/
def operandWords : List String :=
  ["and", "begin", "case", "do", "else", "elsif", "if", "in", "not", "or", "print", "puts",
    "raise", "return", "then", "unless", "until", "when", "while", "yield"]

/-- A character that ends a value: a closing bracket or a quote. -/
def closesValue (c : Char) : Bool :=
  c == ')' || c == ']' || c == '}' || c == '"' || c == '\'' || c == '\x60'

/-- The identifier that the text ends in. -/
def lastWord (before : List Char) : String :=
  String.ofList (before.takeWhile isIdentChar).reverse

/-- Whether a literal can start at a symbol, where `before` precedes the symbol and `after` is the
character behind it.  After a name it can only if a space parts it from the name and none from what
follows, as in a call without parentheses. -/
def startsOperand (before : List Char) (after : Option Char) : Bool :=
  let trimmed := before.dropWhile isSpace
  match trimmed.head? with
  | none => true
  | some last =>
    if isIdentChar last then
      let word := lastWord trimmed
      if operandWords.contains word then true
      else if word.toList.head?.any Char.isDigit then false
      else before.head?.any isSpace && after.any (!isSpace ·)
    else !closesValue last

/-- Whether the text before a symbol, white space aside, ends in a value. -/
def followsValue (before : List Char) : Bool :=
  let trimmed := before.dropWhile isSpace
  match trimmed.head? with
  | none => false
  | some last =>
    if isIdentChar last then !operandWords.contains (lastWord trimmed) else closesValue last

end Marginalia.Ruby
