/-
**Rules about the files below a directory.**

Of the rules that are about a path the last one decides.

* `RuleSet.ofFile` reads an ignore file; lines that are no globs are passed over.
* `RuleSet.verdict` is what the rules say about a path.
* `RuleSet.overrides` reads globs from the command line, which say what is *taken*.
-/

import Marginalia.Ignore.Rule

namespace Marginalia.Ignore

open Marginalia.Text

/-- What rules say about a path. -/
inductive Verdict where
  /-- Nothing. -/
  | silent
  /-- The file is left out. -/
  | ignore
  /-- The file is taken. -/
  | keep
deriving Repr, DecidableEq, Inhabited

namespace Verdict

/-- The first verdict, or else the second one. -/
def orElse : Verdict → Verdict → Verdict
  | silent, other => other
  | verdict, _ => verdict

/-- The opposite verdict. -/
def invert : Verdict → Verdict
  | silent => silent
  | ignore => keep
  | keep => ignore

/-- The first verdict of a list. -/
def firstOf : List Verdict → Verdict
  | [] => silent
  | verdict :: rest => verdict.orElse (firstOf rest)

end Verdict

/-- The path without a start, if it has it. -/
def stripStart? (start path : Bytes) : Option Bytes :=
  if start.isPrefixOf path then some (path.drop start.length) else none

/-- The path without a start, or as it is. -/
def stripStart (start path : Bytes) : Bytes :=
  (stripStart? start path).getD path

/-- A dot and a slash, which say nothing in front of a path. -/
def dotSlash : Bytes := [dot, slash]

/-- Rules with the directory that they are in. -/
structure RuleSet where
  root : Path
  rules : List Rule
deriving Repr, Inhabited

namespace RuleSet

/-- The part of a path below the directory of the rules.  A path without a slash, and every path in
the current directory, is taken as it is. -/
def below (set : RuleSet) (path : Bytes) : Bytes :=
  let root : Path := ⟨stripStart dotSlash set.root.bytes⟩
  let path := stripStart dotSlash path
  if root.components = [.current] || !path.contains slash then path
  else
    match stripStart? root.bytes path with
    | some rest => stripStart [slash] rest
    | none => path

/-- What the rules say about a path. -/
def verdict (set : RuleSet) (path : Bytes) (isDirectory : Bool) : Verdict :=
  let path := set.below path
  match set.rules.reverse.find? fun rule => rule.covers path isDirectory with
  | some rule => if rule.keeps then .keep else .ignore
  | none => .silent

/-- The line without a carriage return at its end. -/
def dropReturn (line : Bytes) : Bytes :=
  if line.getLast? = some 0x0d then line.dropLast else line

/-- The lines of a file.  A carriage return belongs to the line feed behind it, so that the last line
keeps one. -/
def fileLines (contents : Bytes) : List Bytes :=
  let pieces := splitBytes 0x0a contents
  pieces.dropLast.map dropReturn ++ pieces.getLast?.toList

/-- The lines of an ignore file as text, up to the first that is not UTF-8. -/
def textLines : List Bytes → List (List Char)
  | [] => []
  | line :: rest =>
    match Utf8.decode? line with
    | some text => text :: textLines rest
    | none => []

/-- The lines without a byte order mark in front. -/
def dropMark : List (List Char) → List (List Char)
  | [] => []
  | first :: rest => first.dropWhile (· == '\ufeff') :: rest

/-- The rules of an ignore file. -/
def ofFile (root : Path) (contents : Bytes) : RuleSet :=
  let lines := dropMark (textLines (fileLines contents))
  { root
    rules := lines.filterMap fun line =>
      match Rule.ofLine true line with
      | .ok rule => rule
      | .error _ => none }

/-- The rules of globs from the command line. -/
def overrides (root : Path) (globs : List String) : Except LineFault RuleSet := do
  let rules ← globs.mapM fun glob => Rule.ofLine false glob.toList
  return { root, rules := rules.filterMap id }

/-- What globs from the command line say about a path: a glob takes what it matches, an exclamation
mark leaves it out.  If there is a glob without one, all other files are left out. -/
def overrideVerdict (set : RuleSet) (path : Bytes) (isDirectory : Bool) : Verdict :=
  match (set.verdict path isDirectory).invert with
  | .silent => if set.rules.any (!·.keeps) && !isDirectory then .ignore else .silent
  | verdict => verdict

end RuleSet

end Marginalia.Ignore
