/-
**The parts of a glob.**

A glob is a list of tokens.  Groups of alternatives can be nested.
-/

import Marginalia.Path

namespace Marginalia.Glob

open Marginalia.Text

/-- A part of a glob. -/
inductive Token where
  | literal (c : Char)
  /-- One byte of a name. -/
  | any
  /-- Any number of bytes of a name. -/
  | star
  /-- Any number of directories in front. -/
  | anyPrefix
  /-- Everything below a directory. -/
  | anySuffix
  /-- Any number of directories in the middle. -/
  | anyMiddle
  /-- One byte that belongs to the characters of some ranges, or to none of them. -/
  | charClass (negated : Bool) (ranges : List (Char × Char))
  /-- One of several globs. -/
  | alternates (branches : List (List Token))
deriving Repr, Inhabited

/-- The ranges of bytes that a range of characters stands for.  Characters of several bytes
contribute each of their bytes, and the range proper goes from the last byte of the first character
to the first byte of the last one. -/
def byteRanges (range : Char × Char) : List (UInt8 × UInt8) :=
  let single (byte : UInt8) : UInt8 × UInt8 := (byte, byte)
  let first := Utf8.encodeChar range.1
  let last := Utf8.encodeChar range.2
  if range.1 = range.2 then first.map single
  else
    first.dropLast.map single ++ (first.getLast?.getD 0, last.head?.getD 0)
      :: last.tail.map single

/-- A glob. -/
structure Pattern where
  tokens : List Token
deriving Repr, Inhabited

end Marginalia.Glob
