/-
**UTF-8.**

`Utf8.decode` reads any bytes: each maximal start of a character that goes wrong becomes one
replacement character, and reading goes on at the byte that did not fit.  `Utf8.encode` writes a
text.  `Utf8.decode?` reads only bytes that are the form of a text.
-/

namespace Marginalia.Text

/-- Bytes of a file, a path or an encoded text. -/
abbrev Bytes := List UInt8

/-- The character that stands for what cannot be decoded. -/
def replacement : Char := '\ufffd'

namespace Utf8

/-- What the first byte of a character announces. -/
structure Lead where
  /-- The number of bytes that follow. -/
  more : Nat
  /-- The bits that the first byte itself contributes. -/
  bits : Nat
  /-- The least value of the second byte. -/
  low : Nat
  /-- The greatest value of the second byte. -/
  high : Nat
deriving Repr, DecidableEq

/-- What a byte announces as the first of a character; `none` if it cannot be the first.  The bounds
on the second byte rule out forms that are too long, surrogates, and numbers beyond U+10FFFF. -/
def lead? (byte : UInt8) : Option Lead :=
  let value := byte.toNat
  if value < 0x80 then some ⟨0, value, 0, 0⟩
  else if value < 0xc2 then none
  else if value < 0xe0 then some ⟨1, value - 0xc0, 0x80, 0xbf⟩
  else if value = 0xe0 then some ⟨2, 0, 0xa0, 0xbf⟩
  else if value = 0xed then some ⟨2, 0x0d, 0x80, 0x9f⟩
  else if value < 0xf0 then some ⟨2, value - 0xe0, 0x80, 0xbf⟩
  else if value = 0xf0 then some ⟨3, 0, 0x90, 0xbf⟩
  else if value < 0xf4 then some ⟨3, value - 0xf0, 0x80, 0xbf⟩
  else if value = 0xf4 then some ⟨3, 4, 0x80, 0x8f⟩
  else none

/-- Adds up to `more` following bytes to the bits so far, the next of which lies between `low` and
`high`; returns the bits and the number of bytes that fitted. -/
def follow (bits : Nat) : Nat → Nat → Nat → Bytes → Nat × Nat
  | 0, _, _, _ => (bits, 0)
  | _ + 1, _, _, [] => (bits, 0)
  | more + 1, low, high, byte :: rest =>
    if low ≤ byte.toNat && byte.toNat ≤ high then
      let (total, taken) := follow (bits * 64 + (byte.toNat - 0x80)) more 0x80 0xbf rest
      (total, taken + 1)
    else (bits, 0)

/-- The character that starts with `byte`, and the number of bytes of `rest` that belong to it. -/
def decodeChar (byte : UInt8) (rest : Bytes) : Char × Nat :=
  match lead? byte with
  | none => (replacement, 0)
  | some lead =>
    let (code, taken) := follow lead.bits lead.more lead.low lead.high rest
    (if taken = lead.more then Char.ofNat code else replacement, taken)

/-- Decodes bytes, the first `skip` of which belong to a character that has been decoded. -/
def decodeFrom (skip : Nat) : Bytes → List Char
  | [] => []
  | byte :: rest =>
    match skip with
    | skip + 1 => decodeFrom skip rest
    | 0 =>
      let (c, taken) := decodeChar byte rest
      c :: decodeFrom taken rest

/-- The text of any bytes. -/
def decode (bytes : Bytes) : List Char :=
  decodeFrom 0 bytes

/-- The byte that continues a character with six bits of its number. -/
def continuation (bits : Nat) : UInt8 :=
  UInt8.ofNat (0x80 + bits % 64)

/-- The bytes of a character. -/
def encodeChar (c : Char) : Bytes :=
  let code := c.toNat
  if code < 0x80 then [UInt8.ofNat code]
  else if code < 0x800 then [UInt8.ofNat (0xc0 + code / 64), continuation code]
  else if code < 0x10000 then
    [UInt8.ofNat (0xe0 + code / 4096), continuation (code / 64), continuation code]
  else
    [UInt8.ofNat (0xf0 + code / 262144), continuation (code / 4096), continuation (code / 64),
      continuation code]

/-- The bytes of a text. -/
def encode (text : List Char) : Bytes :=
  text.flatMap encodeChar

/-- The text that bytes are the form of, if they are one. -/
def decode? (bytes : Bytes) : Option (List Char) :=
  let text := decode bytes
  if encode text = bytes then some text else none

end Utf8

end Marginalia.Text
