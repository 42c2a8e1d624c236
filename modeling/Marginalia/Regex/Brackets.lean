/-
**Sets of characters in brackets.**

Brackets enclose characters, ranges of them, escapes, names of sets of ASCII characters, and further
brackets.  Two ampersands, hyphens or tildes between such lists stand for the intersection, the
difference and the symmetric difference of two sets, from left to right.

* `readBrackets?` reads a set behind its opening bracket.
-/

import Marginalia.Regex.Escape

namespace Marginalia.Regex

open Marginalia.Text

/-- A set with the depth of its nesting. -/
structure SetPart where
  set : CharSet
  depth : Nat := 0

/-- A list of sets. -/
structure SetList where
  set : CharSet := .empty
  count : Nat := 0
  depth : Nat := 0

/-- Adds a set. -/
def SetList.add (list : SetList) (part : SetPart) : SetList where
  set := list.set.union part.set
  count := list.count + 1
  depth := max list.depth part.depth

/-- The union of the sets; a list of several sets is a level of nesting. -/
def SetList.toPart (list : SetList) : SetPart where
  set := list.set
  depth := if list.count ≤ 1 then list.depth else list.depth + 1

/-- What two sets are combined to. -/
inductive SetOperator where
  | intersection
  | difference
  | symmetricDifference
deriving Repr, DecidableEq

/-- The operator that is written as two of a character. -/
def SetOperator.ofChar? : Char → Option SetOperator
  | '&' => some intersection
  | '-' => some difference
  | '~' => some symmetricDifference
  | _ => none

/-- Combines two sets. -/
def SetOperator.apply : SetOperator → CharSet → CharSet → CharSet
  | intersection => CharSet.intersection
  | difference => CharSet.difference
  | symmetricDifference => CharSet.symmetricDifference

/-- Brackets that are not closed yet. -/
structure OpenBrackets where
  negated : Bool
  /-- What has been read of the brackets around them. -/
  outer : SetList
  /-- A set with an operator behind it. -/
  pending : Option (SetPart × SetOperator) := none

/-- How far the reading of brackets has come. -/
structure BracketReader where
  /-- What has been read of the innermost brackets, behind the last operator. -/
  list : SetList := {}
  /-- The open brackets, the innermost first. -/
  levels : List OpenBrackets := []

namespace BracketReader

/-- The set with the characters that differ only in case, if case does not count. -/
def foldCase (flags : Flags) (set : CharSet) : CharSet :=
  if flags.caseless then set.ignoreCase flags.unicode else set

/-- The set up to this point in the innermost brackets. -/
def operand (flags : Flags) (level : OpenBrackets) (list : SetList) : SetPart :=
  let last := list.toPart
  match level.pending with
  | none => last
  | some (first, operator) =>
    { set := operator.apply (foldCase flags first.set) (foldCase flags last.set)
      depth := max first.depth last.depth + 1 }

/-- Reads an opening bracket with what has a meaning of its own right behind it: a circumflex, hyphens,
or a closing bracket, which does not close the set. -/
def open? (flags : Flags) (reader : BracketReader) (rest : List Char) :
    Option (BracketReader × List Char) := do
  let rest := skip flags.free rest
  let (negated, rest) := match rest with
    | '^' :: rest => (true, skip flags.free rest)
    | rest => (false, rest)
  let (hyphens, rest) := gather flags.free (· == '-') rest.length rest
  let list := hyphens.foldl (fun (list : SetList) c => list.add ⟨.single c, 0⟩) {}
  let (list, rest) := match rest with
    | ']' :: more =>
      if hyphens.isEmpty then (list.add ⟨.single ']', 0⟩, skip flags.free more) else (list, rest)
    | rest => (list, rest)
  if rest.isEmpty then none
  else some ({ list, levels := { negated, outer := reader.list } :: reader.levels }, rest)

/-- Reads a closing bracket: returns the set if it was the outermost one. -/
def close? (flags : Flags) (reader : BracketReader) : Option (BracketReader ⊕ SetPart) :=
  match reader.levels with
  | [] => none
  | level :: levels =>
    let part := operand flags level reader.list
    let folded := foldCase flags part.set
    let set := if level.negated then folded.complement else folded
    let closed : SetPart := { set, depth := part.depth + 1 }
    if !flags.unicode && !set.isAscii then none
    else if levels.isEmpty then some (.inr closed)
    else some (.inl { list := level.outer.add closed, levels })

/-- Reads an operator. -/
def operator (flags : Flags) (reader : BracketReader) (operator : SetOperator) : BracketReader :=
  match reader.levels with
  | [] => reader
  | level :: levels =>
    { list := {}
      levels := { level with pending := some (operand flags level reader.list, operator) }
        :: levels }

/-- The set of a name between colons and brackets, behind the opening bracket. -/
def named? : List Char → Option (CharSet × List Char)
  | ':' :: rest =>
    let (negated, rest) := match rest with
      | '^' :: rest => (true, rest)
      | rest => (false, rest)
    match rest.dropWhile (· != ':') with
    | ':' :: ']' :: more => do
      let set ← CharSet.posix? (String.ofList (rest.takeWhile (· != ':')))
      some (if negated then set.complement else set, more)
    | _ => none
  | _ => none

/-- Reads a character or an escape. -/
def item? (flags : Flags) (c : Char) (rest : List Char) : Option (Primitive × List Char) :=
  if c = '\\' then readEscape? flags rest else some (.literal c, rest)

/-- A character as the start or the end of a range, or as a set of its own; without scripts it must be
of ASCII. -/
def character? (flags : Flags) : Primitive → Option Char
  | .literal c => if flags.unicode || c.toNat < 0x80 then some c else none
  | _ => none

/-- The set that an item stands for. -/
def itemSet? (flags : Flags) (item : Primitive) : Option CharSet :=
  match item with
  | .set set => some set
  | item => (character? flags item).map .single

/-- Reads a character, an escape, or a range of characters. -/
def range? (flags : Flags) (c : Char) (rest : List Char) : Option (CharSet × List Char) := do
  let (first, rest) ← item? flags c rest
  match skip flags.free rest with
  | [] => none
  | '-' :: more =>
    let next := peek? flags.free more
    if next = some ']' || next = some '-' then
      some (← itemSet? flags first, '-' :: more)
    else
      let .cons c more := skip flags.free more | none
      let (last, rest) ← item? flags c more
      let first ← character? flags first
      let last ← character? flags last
      if first ≤ last then some (.range first last, rest) else none
  | rest => some (← itemSet? flags first, rest)

/-- Reads the next part of a set: returns the set if it ends here. -/
def step? (flags : Flags) (reader : BracketReader) (c : Char) (rest : List Char) :
    Option ((BracketReader ⊕ SetPart) × List Char) :=
  if c = '[' then
    match if reader.levels.isEmpty then none else named? rest with
    | some (set, rest) => some (.inl { reader with list := reader.list.add ⟨set, 0⟩ }, rest)
    | none => (reader.open? flags rest).map fun (reader, rest) => (.inl reader, rest)
  else if c = ']' then (reader.close? flags).map (·, rest)
  else
    match SetOperator.ofChar? c, rest with
    | some operator, next :: more =>
      if next = c then some (.inl (reader.operator flags operator), more) else single
    | _, _ => single
where
  single : Option ((BracketReader ⊕ SetPart) × List Char) :=
    (range? flags c rest).map fun (set, rest) =>
      (.inl { reader with list := reader.list.add ⟨set, 0⟩ }, rest)

/-- Reads a set in at most `fuel` steps. -/
def read? (flags : Flags) : Nat → BracketReader → List Char → Option (SetPart × List Char)
  | 0, _, _ => none
  | fuel + 1, reader, text => do
    let .cons c rest := skip flags.free text | none
    match ← reader.step? flags c rest with
    | (.inl reader, rest) => reader.read? flags fuel rest
    | (.inr part, rest) => some (part, rest)

end BracketReader

/-- Reads a set, the opening bracket of which is the first character.  Every step reads a character,
so that there are no more steps than characters. -/
def readBrackets? (flags : Flags) (text : List Char) : Option (SetPart × List Char) :=
  ({} : BracketReader).read? flags text.length text

end Marginalia.Regex
