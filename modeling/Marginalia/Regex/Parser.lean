/-
**Reading expressions.**

The text of an expression is read from the left.  Alternatives are separated by bars and grouped by
parentheses; a group may have a name or flags, and flags alone hold up to the end of the group that
they stand in.

* `Regex.parse?` reads an expression.  Neither the nesting nor the size of an expression may exceed
  their limits, and there are no references back and no conditions on longer parts of the text.
-/

import Marginalia.Regex.Basic
import Marginalia.Regex.Brackets

namespace Marginalia.Regex

open Marginalia.Text

/-- A part of an expression, with the depth of its nesting and about the number of bytes that an
automaton takes for it. -/
structure Part where
  regex : Regex Char
  depth : Nat := 0
  weight : Nat := 0

namespace Part

/-- The part that matches the empty text. -/
def empty : Part where
  regex := .empty

/-- A set of characters. -/
def ofSet (set : CharSet) (depth : Nat) : Part where
  regex := .symbol set.accepts
  depth := depth
  weight := set.weight

/-- A character or an escape. -/
def ofPrimitive (flags : Flags) : Primitive → Part
  | .literal c =>
    ofSet (if flags.caseless then (CharSet.single c).ignoreCase flags.unicode else .single c) 0
  | .set set => ofSet set 0
  | .assertion holds => { regex := .assertion holds, weight := CharSet.stateWeight }

/-- The greatest depth of some parts. -/
def deepest (parts : List Part) : Nat :=
  parts.foldr (fun part depth => max part.depth depth) 0

/-- The weight of some parts together. -/
def total (parts : List Part) : Nat :=
  parts.foldr (fun part weight => part.weight + weight) 0

/-- Parts one after the other. -/
def append : List Part → Part
  | [] => empty
  | [part] => part
  | parts =>
    { regex := .sequence (parts.map (·.regex)), depth := deepest parts + 1, weight := total parts }

/-- Parts to choose from, of which there are at least two. -/
def choose (first : Part) (others : List Part) : Part where
  regex := .oneOf first.regex (others.map (·.regex))
  depth := deepest (first :: others) + 1
  weight := total (first :: others) + CharSet.stateWeight

/-- A repetition. -/
def repeating (part : Part) (least : Nat) (most : Option Nat) : Part where
  regex := part.regex.repeating least most
  depth := part.depth + 1
  weight :=
    if part.regex.isEmptyOnly then part.weight
    else
      let copies := most.getD (max least 1)
      let choices := if most = some least then 0 else copies - min least copies + 1
      copies * part.weight + choices * CharSet.stateWeight

/-- A group; one that is remembered takes two states more. -/
def group (part : Part) (remembered : Bool) : Part :=
  { part with
    depth := part.depth + 1
    weight := if remembered then part.weight + 2 * CharSet.stateWeight else part.weight }

end Part

/-! ### Reading -/

/-- What has been read in front of a group that is not closed yet. -/
structure OpenGroup where
  items : List (Option Part)
  branches : List Part
  flags : Flags
  remembered : Bool

/-- How far the reading of an expression has come. -/
structure Reader where
  flags : Flags := {}
  /-- The parts of the current alternative, the last one first; flags are `none`. -/
  items : List (Option Part) := []
  /-- The alternatives in front of it, the last one first. -/
  branches : List Part := []
  /-- The open groups, the innermost first. -/
  groups : List OpenGroup := []
  /-- The names of groups. -/
  names : List (List Char) := []

namespace Reader

/-- Adds a part. -/
def push (reader : Reader) (part : Part) : Reader :=
  { reader with items := some part :: reader.items }

/-- The current alternative. -/
def branch (reader : Reader) : Part :=
  Part.append (reader.items.reverse.map (·.getD .empty))

/-- All alternatives. -/
def choices (reader : Reader) : Part :=
  match reader.branches.reverse with
  | [] => reader.branch
  | first :: others => Part.choose first (others ++ [reader.branch])

/-- Opens a group in which other flags may hold. -/
def openGroup (reader : Reader) (flags : Flags) (remembered : Bool) : Reader :=
  { reader with
    flags, items := [], branches := []
    groups := ⟨reader.items, reader.branches, reader.flags, remembered⟩ :: reader.groups }

/-- Closes a group. -/
def closeGroup? (reader : Reader) : Option Reader :=
  match reader.groups with
  | [] => none
  | group :: groups =>
    let part := reader.choices.group group.remembered
    some { reader with
      flags := group.flags, items := some part :: group.items, branches := group.branches, groups }

/-- Starts the next alternative. -/
def nextBranch (reader : Reader) : Reader :=
  { reader with items := [], branches := reader.branch :: reader.branches }

/-- A character that the name of a group may start with. -/
def isNameStart (c : Char) : Bool :=
  c == '_' || isAlphabetic c

/-- A character of the name of a group. -/
def isNameChar (c : Char) : Bool :=
  c == '_' || c == '.' || c == '[' || c == ']' || isAlphanumeric c

/-- Opens a group with a name. -/
def openNamed? (reader : Reader) (text : List Char) : Option (Reader × List Char) :=
  let name := text.takeWhile (· != '>')
  match name, text.drop name.length with
  | first :: others, '>' :: rest =>
    if isNameStart first && others.all isNameChar && !reader.names.contains name then
      some ({ reader.openGroup reader.flags true with names := name :: reader.names }, rest)
    else none
  | _, _ => none

/-- Reads an opening parenthesis. -/
def readGroup? (reader : Reader) (rest : List Char) : Option (Reader × List Char) :=
  match skip reader.flags.free rest with
  | '?' :: '=' :: _ | '?' :: '!' :: _ | '?' :: '<' :: '=' :: _ | '?' :: '<' :: '!' :: _ => none
  | '?' :: 'P' :: '<' :: rest | '?' :: '<' :: rest => reader.openNamed? rest
  | '?' :: rest => do
    let (flags, given, mark, rest) ← reader.flags.read true [] rest
    if mark = ':' then some (reader.openGroup flags false, rest)
    else if given then some ({ reader with flags, items := none :: reader.items }, rest)
    else none
  | rest => some (reader.openGroup reader.flags true, rest)

/-- Repeats the last part. -/
def repeatLast? (reader : Reader) (least : Nat) (most : Option Nat) : Option Reader :=
  match reader.items with
  | some part :: items => some { reader with items := some (part.repeating least most) :: items }
  | _ => none

/-- The text behind a question mark, which asks for few repetitions where there is a choice. -/
def dropLazy : List Char → List Char
  | '?' :: rest => rest
  | rest => rest

/-- The greatest number of repetitions. -/
def greatestCount : Nat := 0xffffffff

/-- Reads a number with white space around it. -/
def readCount? (free : Bool) (text : List Char) : Option (Nat × List Char) :=
  let text := text.dropWhile isSpace
  let (digits, rest) := gather free Char.isDigit text.length text
  let value := digits.foldl (fun value c => value * 10 + (c.toNat - '0'.toNat)) 0
  if digits.isEmpty || greatestCount < value then none
  else some (value, if free then rest else rest.dropWhile isSpace)

/-- Reads numbers of repetitions behind an opening brace, up to the closing one. -/
def readCounts? (free : Bool) (text : List Char) :
    Option ((Nat × Option Nat) × List Char) := do
  let (least, rest) ← readCount? free (skip free text)
  match rest with
  | '}' :: rest => some ((least, some least), rest)
  | ',' :: rest =>
    match skip free rest with
    | '}' :: rest => some ((least, none), rest)
    | rest =>
      match ← readCount? free rest with
      | (most, '}' :: rest) => if least ≤ most then some ((least, some most), rest) else none
      | _ => none
  | _ => none

/-- What a dot stands for; without scripts it would match single bytes. -/
def dot? (flags : Flags) : Option Part :=
  if !flags.unicode then none
  else
    let accepts (c : Char) : Bool :=
      flags.dotAll || (c != '\n' && !(flags.returns && c == '\r'))
    some (.ofSet { accepts, weight := CharSet.smallWeight } 0)

/-- Reads a character with what stands behind it. -/
def step? (reader : Reader) (c : Char) (rest : List Char) : Option (Reader × List Char) :=
  let flags := reader.flags
  let place (holds : Option Char → Option Char → Bool) : Reader :=
    reader.push (.ofPrimitive flags (.assertion holds))
  match c with
  | '(' => reader.readGroup? rest
  | ')' => reader.closeGroup?.map (·, rest)
  | '|' => some (reader.nextBranch, rest)
  | '[' => (readBrackets? flags ('[' :: rest)).map fun (part, rest) =>
    (reader.push (.ofSet part.set part.depth), rest)
  | '?' => (reader.repeatLast? 0 (some 1)).map (·, dropLazy rest)
  | '*' => (reader.repeatLast? 0 none).map (·, dropLazy rest)
  | '+' => (reader.repeatLast? 1 none).map (·, dropLazy rest)
  | '{' => do
    let ((least, most), rest) ← readCounts? flags.free rest
    let reader ← reader.repeatLast? least most
    some (reader, dropLazy (skip flags.free rest))
  | '.' => (dot? flags).map fun part => (reader.push part, rest)
  | '^' => some (place (if flags.multiline then isLineStart flags.returns else isTextStart), rest)
  | '$' => some (place (if flags.multiline then isLineEnd flags.returns else isTextEnd), rest)
  | '\\' => (readEscape? flags rest).map fun (primitive, rest) =>
    (reader.push (.ofPrimitive flags primitive), rest)
  | c => some (reader.push (.ofPrimitive flags (.literal c)), rest)

/-- Reads a text in at most `fuel` steps. -/
def read? : Nat → Reader → List Char → Option Reader
  | 0, reader, text => if text.isEmpty then some reader else none
  | fuel + 1, reader, text =>
    match skip reader.flags.free text with
    | [] => some reader
    | c :: rest => do
      let (reader, rest) ← reader.step? c rest
      reader.read? fuel rest

end Reader

/-- The greatest depth of nesting. -/
def nestingLimit : Nat := 250

/-- The greatest weight. -/
def weightLimit : Nat := 10485760

/-- Reads an expression.  Every step reads a character, so that there are no more steps than
characters. -/
def parse? (text : String) : Option (Regex Char) := do
  let chars := text.toList
  let reader ← ({} : Reader).read? chars.length chars
  if !reader.groups.isEmpty then none
  let part := reader.choices
  if part.depth ≤ nestingLimit && part.weight ≤ weightLimit then some part.regex else none

end Marginalia.Regex
