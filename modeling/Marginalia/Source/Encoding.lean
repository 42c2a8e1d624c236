/-
**From the bytes of a file to its text.**

A byte order mark at the start tells the encoding; without one the bytes are UTF-8.  Decoding never
fails.  A file with a zero byte near its start counts as binary, unless its mark says UTF-16.
-/

import Marginalia.Text.Utf8
import Marginalia.Text.Utf16

namespace Marginalia.Source

open Marginalia.Text

/-- The encodings that a file can have. -/
inductive Encoding where
  | utf8
  | utf16 (order : Utf16.ByteOrder)
deriving Repr, DecidableEq, Inhabited

/-- The byte order mark of UTF-8. -/
def utf8Mark : Bytes := [0xef, 0xbb, 0xbf]

/-- The byte order mark of UTF-16, which itself shows the order. -/
def utf16Mark (order : Utf16.ByteOrder) : Bytes :=
  order.bytes 0xfeff

/-- The encoding of a file and the length of the mark that shows it. -/
def Encoding.detect (bytes : Bytes) : Encoding × Nat :=
  if utf8Mark.isPrefixOf bytes then (.utf8, 3)
  else if (utf16Mark .bigEndian).isPrefixOf bytes then (.utf16 .bigEndian, 2)
  else if (utf16Mark .littleEndian).isPrefixOf bytes then (.utf16 .littleEndian, 2)
  else (.utf8, 0)

/-- Decodes bytes without regard to a mark. -/
def Encoding.decode : Encoding → Bytes → List Char
  | utf8, bytes => Utf8.decode bytes
  | utf16 order, bytes => Utf16.decode order bytes

/-- The text of a file, without its mark. -/
def decode (bytes : Bytes) : String :=
  let (encoding, markLength) := Encoding.detect bytes
  String.ofList (encoding.decode (bytes.drop markLength))

/-- The number of bytes that are searched for a zero. -/
def sniffLength : Nat := 8192

/-- Whether a file is taken for binary. -/
def looksBinary (bytes : Bytes) : Bool :=
  match (Encoding.detect bytes).1 with
  | .utf16 _ => false
  | .utf8 => (bytes.take sniffLength).contains 0

end Marginalia.Source
