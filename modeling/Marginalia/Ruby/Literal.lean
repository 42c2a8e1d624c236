/-
**Literals that start with a sign.**

* `isCharLiteral`: a question mark with one character, as in `?a` or `?\n`.
* `percentLiteral?`: a percent sign, perhaps a letter for the kind, and a delimiter.
-/

import Marginalia.Ruby.Delimiter
import Marginalia.Ruby.LookBehind
import Marginalia.Text.CharClass

namespace Marginalia.Ruby

open Marginalia.Text

/-- Whether a question mark between `before` and `rest` starts a character literal: one character,
or an escape of two, follows it and no identifier goes on behind. -/
def isCharLiteral (before rest : List Char) : Bool :=
  match rest with
  | [] => false
  | c :: more =>
    if isSpace c then false
    else
      let behind := if c = '\\' then more[1]? else more[0]?
      !behind.any isIdentChar && startsOperand before rest.head?

/-- The letters that name a kind of literal after a percent sign. -/
def isPercentKind (c : Char) : Bool :=
  ['q', 'Q', 'w', 'W', 'i', 'I', 'r', 's', 'x'].contains c

/-- The kinds whose literals interpolate. -/
def kindInterpolates (c : Char) : Bool :=
  ['Q', 'W', 'I', 'r', 'x'].contains c

/-- The delimiters that may follow a percent sign without a kind. -/
def isBareDelimiter (c : Char) : Bool :=
  ['(', '[', '{', '<', '|', '!', '/', '^'].contains c

/-- A character that can delimit a literal with a kind. -/
def isDelimiterMark (c : Char) : Bool :=
  !isAlphanumeric c && !isSpace c

/-- The literal that a percent sign between `before` and `rest` starts: the number of characters to
skip behind the sign, and the delimiter. -/
def percentLiteral? (before rest : List Char) : Option (Nat × Delimiter) :=
  if startsOperand before rest.head? then
    match rest with
    | [] => none
    | first :: more =>
      if first.isAlpha then
        match more with
        | [] => none
        | mark :: _ =>
          if isPercentKind first && isDelimiterMark mark then
            some (2, .bracket mark (kindInterpolates first))
          else none
      else if isBareDelimiter first then some (1, .bracket first true)
      else none
  else none

end Marginalia.Ruby
