/-
**Which paths a glob matches.**

A path is matched as a whole, byte by byte.  A star never reaches beyond a slash; two stars do.

* `Pattern.regex` is the regular expression that a glob stands for.
* `Pattern.matches` matches a glob with a path.
-/

import Marginalia.Glob.Pattern
import Marginalia.Regex.Basic

namespace Marginalia.Glob

open Marginalia.Text

/-- A byte that belongs to a name. -/
def isNameByte (byte : UInt8) : Bool :=
  byte != slash

/-- Whether a byte lies in one of the ranges. -/
def inRanges (ranges : List (UInt8 × UInt8)) (byte : UInt8) : Bool :=
  ranges.any fun (first, last) => first ≤ byte && byte ≤ last

/-- A slash. -/
def slashRegex : Regex UInt8 :=
  .symbol (· == slash)

/-- Any bytes and a slash behind them. -/
def throughSlash : Regex UInt8 :=
  .append (.run fun _ => true) slashRegex

/-- The bytes of a character. -/
def charRegex (c : Char) : Regex UInt8 :=
  .sequence ((Utf8.encodeChar c).map fun value => .symbol (· == value))

mutual

/-- The expression that a token stands for; `none` for a group of empty branches, which stands for
nothing. -/
def Token.regex? : Token → Option (Regex UInt8)
  | .literal c => some (charRegex c)
  | .any => some (.symbol isNameByte)
  | .star => some (.run isNameByte)
  | .anyPrefix => some (.choice .empty throughSlash)
  | .anySuffix => some (.append slashRegex (.run fun _ => true))
  | .anyMiddle => some (.choice slashRegex (.append slashRegex throughSlash))
  | .charClass negated ranges =>
    let ranges := ranges.flatMap byteRanges
    some (.symbol fun byte => inRanges ranges byte != negated)
  | .alternates branches =>
    match branchRegexes branches with
    | [] => none
    | first :: others => some (.oneOf first others)

/-- The expressions of the branches of a group; empty branches do not count. -/
def branchRegexes : List (List Token) → List (Regex UInt8)
  | [] => []
  | branch :: rest =>
    match tokensRegex? branch with
    | some regex => regex :: branchRegexes rest
    | none => branchRegexes rest

/-- The expression of a list of tokens; `none` if it stands for nothing. -/
def tokensRegex? : List Token → Option (Regex UInt8)
  | [] => none
  | token :: rest =>
    match token.regex?, tokensRegex? rest with
    | none, others => others
    | some first, none => some first
    | some first, some others => some (.append first others)

end

/-- The expression that a glob stands for. -/
def Pattern.regex (pattern : Pattern) : Regex UInt8 :=
  (tokensRegex? pattern.tokens).getD .empty

/-- Whether a glob is nothing but two stars, which match everything. -/
def Pattern.isUniversal (pattern : Pattern) : Bool :=
  match pattern.tokens with
  | [.anyPrefix] => true
  | _ => false

/-- Whether a glob matches a path. -/
def Pattern.matches (pattern : Pattern) (path : Bytes) : Bool :=
  pattern.isUniversal || pattern.regex.matchesWhole path

end Marginalia.Glob
