/-
**References.**

A reference is a file below the directory of the repository that is named by it.  It holds the id of
an object, or the name of another reference.  References can also be listed in one file for all of
them, which is looked at last.

* `Repository.resolve` follows a reference to the id of an object.
-/

import Marginalia.Git.RefName
import Marginalia.Git.Repository
import Marginalia.Text.Hex

namespace Marginalia.Git

open Marginalia.Text Marginalia.Disk

/-- What a reference stands for. -/
inductive Reference where
  /-- The object of an id. -/
  | direct (id : String)
  /-- Another reference. -/
  | symbolic (name : String)
deriving Repr, DecidableEq, Inhabited

/-- The number of digits of an id. -/
def idLength : Nat := 40

/-- The id at the start of the contents of a file, in lower case; white space or nothing follows. -/
def readId? (contents : Bytes) : Option String :=
  let digits := Utf8.decode (contents.take idLength)
  let ended := match contents.drop idLength with
    | [] => true
    | byte :: _ => byte == 0 || isSpaceByte byte
  if digits.length = idLength && digits.all isHexDigit && ended then
    some (String.ofList (digits.map Char.toLower))
  else none

/-- What the file of a reference starts with if it names another reference. -/
def symbolicMark : Bytes := (Path.ofString "ref: ").bytes

/-- Reads the file of a reference. -/
def Reference.ofContents (name : String) (contents : Bytes) : Except Fault Reference :=
  if symbolicMark.isPrefixOf contents then
    match (trimBytes contents).drop symbolicMark.length with
    | [] => .error (.corruptReference none)
    | target => .ok (.symbolic (String.ofList (Utf8.decode target)))
  else
    match readId? contents with
    | some id => .ok (.direct id)
    | none => .error (.corruptReference (some name))

namespace Repository

/-- The reference that the list of all references holds under a name. -/
def listed? (volume : Volume) (repository : Repository) (name : String) : Option Reference := do
  let contents ← (volume.readFrom [] (repository.shared.join
    (Path.ofString "packed-refs").bytes)).toOption
  let name := Utf8.encode (' ' :: name.toList)
  let line ← (splitBytes 0x0a contents).find? fun line => line.drop idLength = name
  Reference.direct <$> readId? line

/-- The reference of a full name; `text` is the revision that it is part of. -/
def reference? (volume : Volume) (repository : Repository) (text name : String) :
    Except Fault (Option Reference) :=
  let directory := if isOwnName name then repository.path else repository.shared
  match volume.readFrom [] (directory.join (Path.ofString name).bytes) with
  | .ok contents => do return some (← Reference.ofContents name contents)
  | .error .nameTooLong => .error (.invalidRevision text)
  | .error _ => .ok (listed? volume repository name)

/-- How many references may be named one by the other. -/
def symbolicLimit : Nat := 5

/-- The id that a reference leads to through at most `levels` other ones; `none` if one of them is not
there. -/
def resolveFrom (volume : Volume) (repository : Repository) (text : String) :
    Nat → Reference → Except Fault (Option String)
  | _, .direct id => .ok (some id)
  | 0, .symbolic _ => .error (.deepReference symbolicLimit)
  | levels + 1, .symbolic name => do
    match ← repository.reference? volume text name with
    | some next => repository.resolveFrom volume text levels next
    | none => return none

/-- The id that the reference of a full name leads to, if it is there. -/
def resolve (volume : Volume) (repository : Repository) (text name : String) :
    Except Fault (Option String) := do
  match ← repository.reference? volume text name with
  | some reference => repository.resolveFrom volume text symbolicLimit reference
  | none => return none

end Repository

end Marginalia.Git
