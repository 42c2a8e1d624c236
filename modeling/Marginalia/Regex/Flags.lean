/-
**Flags of expressions, and blanks in them.**

Flags change the meaning of what follows them in the text of an expression.  With one of them, white
space does not count and a number sign starts a comment.

* `Flags.read` reads the flags of a group.
* `skip` passes over what does not count.
-/

import Marginalia.Text.Space

namespace Marginalia.Regex

open Marginalia.Text

/-- The flags that are set. -/
structure Flags where
  /-- Letters match in either case. -/
  caseless : Bool := false
  /-- Lines have a start and an end of their own. -/
  multiline : Bool := false
  /-- A dot matches line breaks. -/
  dotAll : Bool := false
  /-- Classes hold the characters of all scripts, not only of ASCII. -/
  unicode : Bool := true
  /-- A carriage return belongs to a line break. -/
  returns : Bool := false
  /-- White space and comments do not count. -/
  free : Bool := false
deriving Repr, DecidableEq, Inhabited

namespace Flags

/-- Sets or clears the flag of a letter. -/
def set? (flags : Flags) (on : Bool) : Char → Option Flags
  | 'i' => some { flags with caseless := on }
  | 'm' => some { flags with multiline := on }
  | 's' => some { flags with dotAll := on }
  | 'u' => some { flags with unicode := on }
  | 'R' => some { flags with returns := on }
  | 'x' => some { flags with free := on }
  | 'U' => some flags
  | _ => none

/-- Reads letters, of which those behind a hyphen clear their flags, up to a colon or a closing
parenthesis.  No letter may come twice, and none may be missing behind the hyphen.  Returns the flags,
whether there were letters, the character at the end and the rest. -/
def read (flags : Flags) (on : Bool) (seen : List Char) :
    List Char → Option (Flags × Bool × Char × List Char)
  | [] => none
  | c :: rest =>
    if c = ':' || c = ')' then
      if seen.head? = some '-' then none else some (flags, !seen.isEmpty, c, rest)
    else if seen.contains c then none
    else if c = '-' then flags.read false (c :: seen) rest
    else do (← flags.set? on c).read on (c :: seen) rest

end Flags

/-- The text behind white space and comments, which end with their lines. -/
def skipFree (inComment : Bool) : List Char → List Char
  | [] => []
  | c :: rest =>
    if inComment then skipFree (c != '\n') rest
    else if isSpace c then skipFree false rest
    else if c = '#' then skipFree true rest
    else c :: rest

/-- The text behind what does not count. -/
def skip (free : Bool) (text : List Char) : List Char :=
  if free then skipFree false text else text

/-- The next character that counts.  Here a number sign hides nothing but itself and the white space
behind it. -/
def peek? (free : Bool) (text : List Char) : Option Char :=
  if free then
    match text.dropWhile isSpace with
    | '#' :: rest => (rest.dropWhile isSpace).head?.or text.head?
    | c :: _ => some c
    | [] => text.head?
  else text.head?

/-- At most `most` characters of a kind, with what does not count between and behind them, and the
rest. -/
def gather (free : Bool) (kind : Char → Bool) : Nat → List Char → List Char × List Char
  | 0, text => ([], text)
  | _, [] => ([], [])
  | most + 1, c :: rest =>
    if kind c then
      let (more, rest) := gather free kind most (skip free rest)
      (c :: more, rest)
    else ([], c :: rest)

end Marginalia.Regex
