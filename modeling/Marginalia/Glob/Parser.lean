/-
**Reading globs.**

The text of a glob is read from the left.  A question mark and a star stand for bytes of a name, two
stars between slashes for directories, brackets enclose a class of characters and braces a group of
alternatives, and a backslash takes the meaning from the character behind it.

* `parse` reads a glob.  If it is lenient, a bracket that is never closed stands for itself.
-/

import Marginalia.Glob.Fault
import Marginalia.Glob.Pattern

namespace Marginalia.Glob

/-! ### Classes of characters -/

/-- How far the reading of a class has come; the ranges are kept last first. -/
structure ClassReader where
  ranges : List (Char × Char) := []
  /-- Whether nothing has been read. -/
  first : Bool := true
  /-- Whether a hyphen has been read that may belong to a range. -/
  inRange : Bool := false
deriving Repr

namespace ClassReader

/-- Makes a character the end of the range that was read last. -/
def close (reader : ClassReader) (last : Char) : Except Fault ClassReader :=
  match reader.ranges with
  | [] => .ok { reader with inRange := false, first := false }
  | (start, _) :: ranges =>
    if last < start then .error (.invalidRange start last)
    else .ok { ranges := (start, last) :: ranges, first := false }

/-- Reads a character of a class. -/
def read (reader : ClassReader) (c : Char) : Except Fault ClassReader :=
  if reader.inRange then reader.close c
  else if c = '-' && !reader.first then .ok { reader with inRange := true }
  else .ok { ranges := (c, c) :: reader.ranges, first := false }

/-- The ranges of a class that has been read; a hyphen at its end stands for itself. -/
def finish (reader : ClassReader) : List (Char × Char) :=
  (if reader.inRange then ('-', '-') :: reader.ranges else reader.ranges).reverse

end ClassReader

/-- Reads the characters of a class up to the bracket that closes it, which does not close it as the
first one; returns the ranges and the number of characters read. -/
def readRanges (reader : ClassReader) : List Char → Except Fault (List (Char × Char) × Nat)
  | [] => .error .unclosedClass
  | c :: rest =>
    if c = ']' && !reader.first then .ok (reader.finish, 1)
    else do
      let (ranges, count) ← readRanges (← reader.read c) rest
      return (ranges, count + 1)

/-- Reads a class behind its opening bracket; returns the token and the number of characters
read. -/
def readClass (text : List Char) : Except Fault (Token × Nat) :=
  match text with
  | '!' :: rest | '^' :: rest => do
    let (ranges, count) ← readRanges {} rest
    return (.charClass true ranges, count + 1)
  | rest => do
    let (ranges, count) ← readRanges {} rest
    return (.charClass false ranges, count)

/-! ### Groups -/

/-- A group of alternatives that is not closed yet. -/
structure Group where
  /-- The branches that have been read, the last one first. -/
  branches : List (List Token)
  /-- The tokens in front of the group, the last one first. -/
  before : List Token
deriving Repr

/-- How far the reading of a glob has come. -/
structure Reader where
  /-- The tokens of the current branch, the last one first. -/
  tokens : List Token := []
  /-- The open groups, the innermost one first. -/
  groups : List Group := []
  /-- Whether brackets stand for themselves from here on. -/
  plainBrackets : Bool := false
deriving Repr

namespace Reader

/-- Adds a token. -/
def push (reader : Reader) (token : Token) : Reader :=
  { reader with tokens := token :: reader.tokens }

/-- Opens a group. -/
def openGroup (reader : Reader) : Reader :=
  { reader with tokens := [], groups := ⟨[], reader.tokens⟩ :: reader.groups }

/-- Starts the next branch of a group; outside of groups a comma stands for itself. -/
def nextBranch (reader : Reader) : Reader :=
  match reader.groups with
  | [] => reader.push (.literal ',')
  | group :: groups =>
    { reader with
      tokens := []
      groups := { group with branches := reader.tokens.reverse :: group.branches } :: groups }

/-- Closes a group. -/
def closeGroup (reader : Reader) : Except Fault Reader :=
  match reader.groups with
  | [] => .error .unopenedGroup
  | group :: groups =>
    let branches := (reader.tokens.reverse :: group.branches).reverse
    .ok { reader with tokens := .alternates branches :: group.before, groups }

/-- Puts a token for directories in the place of the last one, unless that already stands for any
directories. -/
def replaceLast (reader : Reader) (token : Token) : Reader :=
  match reader.tokens with
  | [] => reader.push token
  | .anyPrefix :: _ | .anySuffix :: _ => reader
  | _ :: tokens => { reader with tokens := token :: tokens }

/-- Reads two stars, before which `previous` stands and behind which `rest`; returns the number of
further characters read.  Only as a name of their own they stand for directories. -/
def readDoubleStar (reader : Reader) (previous : Option Char) (rest : List Char) :
    Reader × Nat :=
  let plain := (reader.push .star).push .star
  let inGroup := !reader.groups.isEmpty
  if reader.tokens.isEmpty then
    match rest with
    | [] => (reader.push .anyPrefix, 0)
    | '/' :: _ => (reader.push .anyPrefix, 1)
    | _ => (plain, 0)
  else if previous = some '/' || (inGroup && (previous = some ',' || previous = some '{')) then
    match rest with
    | [] => (reader.replaceLast .anySuffix, 0)
    | '/' :: _ => (reader.replaceLast .anyMiddle, 1)
    | c :: _ =>
      if inGroup && (c = ',' || c = '}') then (reader.replaceLast .anySuffix, 0) else (plain, 0)
  else (plain, 0)

/-- Reads an opening bracket; returns the number of further characters read. -/
def readBracket (reader : Reader) (lenient : Bool) (rest : List Char) :
    Except Fault (Reader × Nat) :=
  if reader.plainBrackets then .ok (reader.push (.literal '['), 0)
  else
    match readClass rest with
    | .ok (token, count) => .ok (reader.push token, count)
    | .error .unclosedClass =>
      if lenient then .ok ({ reader with plainBrackets := true }.push (.literal '['), 0)
      else .error .unclosedClass
    | .error fault => .error fault

/-- Reads a character, with what stands before and behind it; returns the number of further
characters read. -/
def readChar (reader : Reader) (lenient : Bool) (previous : Option Char) (c : Char)
    (rest : List Char) : Except Fault (Reader × Nat) :=
  match c, rest with
  | '?', _ => .ok (reader.push .any, 0)
  | '*', '*' :: rest =>
    let (reader, count) := reader.readDoubleStar previous rest
    .ok (reader, count + 1)
  | '*', _ => .ok (reader.push .star, 0)
  | '[', _ => reader.readBracket lenient rest
  | '{', _ => .ok (reader.openGroup, 0)
  | '}', _ => do return (← reader.closeGroup, 0)
  | ',', _ => .ok (reader.nextBranch, 0)
  | '\\', [] => .error .danglingEscape
  | '\\', next :: _ => .ok (reader.push (.literal next), 1)
  | _, _ => .ok (reader.push (.literal c), 0)

/-- Reads a text behind `previous`, the first `skip` characters of which have been read. -/
def readFrom (lenient : Bool) (reader : Reader) (previous : Option Char) (skip : Nat) :
    List Char → Except Fault Reader
  | [] => .ok reader
  | c :: rest =>
    match skip with
    | skip + 1 => readFrom lenient reader (some c) skip rest
    | 0 => do
      let (reader, count) ← reader.readChar lenient previous c rest
      readFrom lenient reader (some c) count rest

end Reader

/-- Reads a glob. -/
def parse (lenient : Bool) (text : List Char) : Except Fault Pattern := do
  let reader ← Reader.readFrom lenient {} none 0 text
  if reader.groups.isEmpty then return ⟨reader.tokens.reverse⟩ else throw .unclosedGroup

end Marginalia.Glob
