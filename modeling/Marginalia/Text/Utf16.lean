/-
**UTF-16.**

Bytes are taken in pairs, in either order, as units of 16 bits.  Two surrogate units that fit
together are one character; one that stands alone becomes a replacement character, and so does an
odd byte at the end.
-/

import Marginalia.Text.Utf8

namespace Marginalia.Text.Utf16

/-- Which byte of a pair comes first. -/
inductive ByteOrder where
  | bigEndian
  | littleEndian
deriving Repr, DecidableEq, Inhabited

/-- The unit of two bytes. -/
def ByteOrder.unit (order : ByteOrder) (first second : UInt8) : Nat :=
  match order with
  | .bigEndian => first.toNat * 256 + second.toNat
  | .littleEndian => second.toNat * 256 + first.toNat

/-- The two bytes of a unit. -/
def ByteOrder.bytes (order : ByteOrder) (unit : Nat) : Bytes :=
  match order with
  | .bigEndian => [UInt8.ofNat (unit / 256), UInt8.ofNat (unit % 256)]
  | .littleEndian => [UInt8.ofNat (unit % 256), UInt8.ofNat (unit / 256)]

/-- A unit that starts a pair. -/
def isHigh (unit : Nat) : Bool :=
  0xd800 ≤ unit && unit < 0xdc00

/-- A unit that ends a pair. -/
def isLow (unit : Nat) : Bool :=
  0xdc00 ≤ unit && unit < 0xe000

/-- The unit that an odd byte counts as: half of a pair, whose other half never comes. -/
def oddUnit : Nat := 0xd800

/-- The units of the bytes. -/
def units (order : ByteOrder) : Bytes → List Nat
  | [] => []
  | [_] => [oddUnit]
  | first :: second :: rest => order.unit first second :: units order rest

/-- The character of a unit that is not part of a pair. -/
def single (unit : Nat) : Char :=
  if isHigh unit || isLow unit then replacement else Char.ofNat unit

/-- The character of a pair. -/
def pair (high low : Nat) : Char :=
  Char.ofNat (0x10000 + (high - 0xd800) * 0x400 + (low - 0xdc00))

/-- The text of a list of units. -/
def decodeUnits : List Nat → List Char
  | [] => []
  | [unit] => [single unit]
  | unit :: next :: rest =>
    if isHigh unit && isLow next then pair unit next :: decodeUnits rest
    else single unit :: decodeUnits (next :: rest)

/-- The text of any bytes. -/
def decode (order : ByteOrder) (bytes : Bytes) : List Char :=
  decodeUnits (units order bytes)

/-- The units of a character. -/
def encodeChar (c : Char) : List Nat :=
  if c.toNat < 0x10000 then [c.toNat]
  else [0xd800 + (c.toNat - 0x10000) / 0x400, 0xdc00 + (c.toNat - 0x10000) % 0x400]

/-- The units of a text. -/
def encodeUnits (text : List Char) : List Nat :=
  text.flatMap encodeChar

/-- The bytes of a text. -/
def encode (order : ByteOrder) (text : List Char) : Bytes :=
  (encodeUnits text).flatMap order.bytes

end Marginalia.Text.Utf16
