/-
**Paths.**

A path is a string of bytes with `/` between the names of directories.  Two spellings of the same
components are different paths that compare equal: the order of paths (`Path.le`) looks at the
components alone, from the left.

* `Path.components` takes a path apart.
* `Path.fileName?` is the last name of a path.
* `Path.display` shows a path as text; what is not UTF-8 is replaced.
-/

import Marginalia.Text.Utf8

namespace Marginalia

open Marginalia.Text

/-- A path as it was given. -/
structure Path where
  bytes : Bytes
deriving Repr, DecidableEq, Inhabited

/-- One step of a path. -/
inductive Component where
  /-- The root directory, in front of a path that starts with a slash. -/
  | root
  /-- A dot at the very start. -/
  | current
  /-- Two dots. -/
  | parent
  /-- The name of a file or directory. -/
  | normal (name : Bytes)
deriving Repr, DecidableEq, Inhabited

/-- The byte between the names of a path. -/
def slash : UInt8 := 0x2f

/-- The byte of a dot. -/
def dot : UInt8 := 0x2e

/-- The pieces of some bytes between the occurrences of a byte. -/
def splitBytes (separator : UInt8) : Bytes → List Bytes
  | [] => [[]]
  | byte :: rest =>
    if byte = separator then [] :: splitBytes separator rest
    else
      match splitBytes separator rest with
      | [] => [[byte]]
      | piece :: pieces => (byte :: piece) :: pieces

/-- The component of a piece of a path; empty pieces and dots are none. -/
def Component.ofPiece? (piece : Bytes) : Option Component :=
  if piece = [] || piece = [dot] then none
  else if piece = [dot, dot] then some .parent
  else some (.normal piece)

/-- The order of lists by their first difference; a list comes before its continuations. -/
def lexLe {α : Type} [DecidableEq α] (le : α → α → Bool) : List α → List α → Bool
  | [], _ => true
  | _ :: _, [] => false
  | first :: rest, other :: others =>
    if first = other then lexLe le rest others else le first other

/-- The order of bytes by their first difference. -/
def bytesLe (first second : Bytes) : Bool :=
  lexLe (fun one other => one.toNat.ble other.toNat) first second

/-- The key that components are ordered by: the root, a dot and two dots come before every name, and
names are ordered by their bytes. -/
def Component.key : Component → List Nat
  | root => [0]
  | current => [1]
  | parent => [2]
  | normal name => 3 :: name.map UInt8.toNat

namespace Path

/-- The path that a text spells. -/
def ofString (text : String) : Path :=
  ⟨Utf8.encode text.toList⟩

/-- The path as text. -/
def display (path : Path) : String :=
  String.ofList (Utf8.decode path.bytes)

/-- The path as text, if it is one. -/
def toString? (path : Path) : Option String :=
  (Utf8.decode? path.bytes).map String.ofList

/-- Whether the path starts at the root directory. -/
def isAbsolute (path : Path) : Bool :=
  path.bytes.head? == some slash

/-- The steps of a path.  Repeated slashes, a slash at the end, and dots other than one at the very
start do not show. -/
def components (path : Path) : List Component :=
  let pieces := splitBytes slash path.bytes
  let first : List Component :=
    if path.isAbsolute then [.root] else if pieces.head? = some [dot] then [.current] else []
  first ++ pieces.filterMap Component.ofPiece?

/-- The last name of a path; `none` if the path ends in the root or in two dots. -/
def fileName? (path : Path) : Option Bytes :=
  match path.components.getLast? with
  | some (.normal name) => some name
  | _ => none

/-- The last name of a path as text. -/
def fileNameText? (path : Path) : Option String :=
  path.fileName?.map fun name => String.ofList (Utf8.decode name)

/-- The key that paths are ordered by. -/
def key (path : Path) : List (List Nat) :=
  path.components.map Component.key

/-- The order of paths, component by component. -/
def le (first second : Path) : Bool :=
  lexLe (lexLe Nat.ble) first.key second.key

/-- The path of an entry of a directory: a slash is put between them unless there is one. -/
def join (directory : Path) (name : Bytes) : Path :=
  if directory.bytes = [] then ⟨name⟩
  else if directory.bytes.getLast? = some slash then ⟨directory.bytes ++ name⟩
  else ⟨directory.bytes ++ slash :: name⟩

end Path

end Marginalia
