/-
**Lines of ignore files.**

Each line of an ignore file is a rule: a glob, perhaps with an exclamation mark in front, which makes
it take files back in, and perhaps with a slash at its end, which makes it hold for directories only.
A glob without a slash is about names at any depth.

* `Rule.ofLine` reads a line; empty lines and lines that start with a number sign are no rules.
-/

import Marginalia.Glob.Match
import Marginalia.Glob.Parser
import Marginalia.Text.Space

namespace Marginalia.Ignore

open Marginalia.Text

/-- A rule about the files below some directory. -/
structure Rule where
  glob : Glob.Pattern
  /-- Whether the rule takes files back in. -/
  keeps : Bool := false
  /-- Whether the rule holds for directories only. -/
  directoriesOnly : Bool := false
deriving Repr, Inhabited

/-- A line that is no glob, with what is wrong with it. -/
structure LineFault where
  line : String
  cause : Glob.Fault
deriving Repr, DecidableEq, Inhabited

namespace Rule

/-- The line without white space at its end, unless a backslash protects it. -/
def trimLine (line : List Char) : List Char :=
  if ['\\', ' '].isSuffixOf line then line else trimEnd line

/-- What the marks in front of a glob say: whether the rule keeps files, whether the glob starts at
the directory of the rule, and the glob. -/
def splitMarks : List Char → Bool × Bool × List Char
  | '\\' :: '!' :: rest => (false, false, '!' :: rest)
  | '\\' :: '#' :: rest => (false, false, '#' :: rest)
  | '!' :: '/' :: rest => (true, true, rest)
  | '!' :: rest => (true, false, rest)
  | '/' :: rest => (false, true, rest)
  | rest => (false, false, rest)

/-- The glob without a slash at its end, and whether there was one; a backslash before the slash goes
with it. -/
def splitFinalSlash (glob : List Char) : Bool × List Char :=
  match glob.reverse with
  | '/' :: '\\' :: rest => (true, rest.reverse)
  | '/' :: rest => (true, rest.reverse)
  | _ => (false, glob)

/-- Whether a glob already stands for names at any depth. -/
def startsAnywhere (glob : List Char) : Bool :=
  ['*', '*', '/'].isPrefixOf glob || glob == ['*', '*']

/-- The glob that is matched with whole paths: without a slash it is about names at any depth, and
two stars at its end are about what is inside a directory. -/
def wholePathGlob (anchored : Bool) (glob : List Char) : List Char :=
  let glob :=
    if !anchored && !glob.contains '/' && !startsAnywhere glob then ['*', '*', '/'] ++ glob
    else glob
  if ['/', '*', '*'].isSuffixOf glob then glob ++ ['/', '*'] else glob

/-- Reads a line. -/
def ofLine (lenient : Bool) (line : List Char) : Except LineFault (Option Rule) :=
  if line.head? = some '#' then .ok none
  else
    let line := trimLine line
    if line.isEmpty then .ok none
    else
      let (keeps, anchored, glob) := splitMarks line
      let (directoriesOnly, glob) := splitFinalSlash glob
      match Glob.parse lenient (wholePathGlob anchored glob) with
      | .ok glob => .ok (some { glob, keeps, directoriesOnly })
      | .error cause => .error { line := String.ofList line, cause }

/-- Whether a rule is about a path below its directory. -/
def covers (rule : Rule) (path : Bytes) (isDirectory : Bool) : Bool :=
  (!rule.directoriesOnly || isDirectory) && rule.glob.matches path

end Rule

end Marginalia.Ignore
