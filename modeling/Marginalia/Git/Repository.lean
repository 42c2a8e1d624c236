/-
**Repositories.**

A repository is a directory with a `HEAD` file and two directories, `objects` and `refs`.  Work trees
that share a repository have directories of their own, with a file that leads to the shared one.  Most
often a repository lies in a work tree under the name `.git`; in its place there can be a file that
says where the repository is.

* `Repository.open?` finds the repository of a directory.
-/

import Marginalia.Disk.Resolve
import Marginalia.Git.Fault
import Marginalia.Git.Store

namespace Marginalia.Git

open Marginalia.Text Marginalia.Disk

/-- A repository. -/
structure Repository where
  /-- The directory of the repository, from the top. -/
  path : Path
  /-- The directory with what all work trees share. -/
  shared : Path
  store : Store

/-- The name under which a work tree holds its repository. -/
def dotGit : Bytes := (Path.ofString ".git").bytes

/-- Whether a byte is white space in a file of a repository. -/
def isSpaceByte (byte : UInt8) : Bool :=
  byte == 0x20 || (0x09 ≤ byte && byte ≤ 0x0d)

/-- The bytes without white space at their end. -/
def trimBytes (bytes : Bytes) : Bytes :=
  (bytes.reverse.dropWhile isSpaceByte).reverse

namespace Repository

/-- Whether a path leads to a file. -/
def isFile (volume : Volume) (path : Path) : Bool :=
  match volume.nodeFrom [] path with
  | .ok (.file _) => true
  | _ => false

/-- Whether a path leads to a directory. -/
def isDirectory (volume : Volume) (path : Path) : Bool :=
  match volume.nodeFrom [] path with
  | .ok (.directory _) => true
  | _ => false

/-- The path without links that a path leads to, seen from a directory. -/
def realPath (volume : Volume) (directory path : Path) : Except Fault Path :=
  let whole := if path.isAbsolute then path else directory.join path.bytes
  match volume.resolveFrom true [] whole with
  | .ok location => .ok (pathOf location)
  | .error cause => .error (.unreachable whole cause)

/-- The directory that a repository shares with others: a file can name it. -/
def sharedPath (volume : Volume) (path : Path) : Except Fault Path :=
  match volume.readFrom [] (path.join (Path.ofString "commondir").bytes) with
  | .ok contents => realPath volume path ⟨trimBytes contents⟩
  | .error _ => .ok path

/-- The store in a directory. -/
def storeIn (volume : Volume) (stores : List Store) (directory : Path) : Store :=
  let location := (volume.resolveFrom true [] directory).toOption.getD []
  (stores.find? (·.directory == location)).getD (.empty location)

/-- The repository whose own directory is at a path, if there is one. -/
def at? (volume : Volume) (stores : List Store) (path : Path) :
    Except Fault (Option Repository) := do
  let shared ← sharedPath volume path
  let objects := shared.join (Path.ofString "objects").bytes
  if isFile volume (path.join (Path.ofString "HEAD").bytes) && isDirectory volume objects
      && isDirectory volume (shared.join (Path.ofString "refs").bytes) then
    return some { path, shared, store := storeIn volume stores objects }
  else return none

/-- What a file in the place of a repository starts with. -/
def linkMark : Bytes := (Path.ofString "gitdir:").bytes

/-- The path that a file in the place of a repository says. -/
def linkTarget? (contents : Bytes) : Option Path :=
  let line := trimBytes contents
  if linkMark.isPrefixOf line && linkMark.length < line.length then
    some ⟨(line.drop linkMark.length).dropWhile isSpaceByte⟩
  else none

/-- The repository that a file leads to. -/
def throughFile (volume : Volume) (stores : List Store) (directory file : Path)
    (contents : Bytes) : Except Fault (Option Repository) :=
  match linkTarget? contents with
  | none => .error (.malformedLink file)
  | some target => do at? volume stores (← realPath volume directory target)

/-- The repository of a directory: the one that it holds, or else its own.  A file in the place of
the repository decides. -/
def open? (volume : Volume) (stores : List Store) (directory : Path) :
    Except Fault Repository := do
  if directory.bytes.contains 0 then throw .zeroByte
  let location ← match volume.resolve directory with
    | .ok location => pure location
    | .error cause => throw (.unreachable directory cause)
  let start := pathOf location
  let inner := start.join dotGit
  let orNone (found : Option Repository) : Except Fault Repository :=
    match found with
    | some repository => .ok repository
    | none => .error (.noRepository directory)
  let own : Except Fault Repository :=
    match volume.top.find? location with
    | some (.directory _) => do orNone (← at? volume stores start)
    | some (.file contents) =>
      if location.getLast? = some dotGit then do
        orNone (← throughFile volume stores (pathOf location.dropLast) start contents)
      else orNone none
    | _ => orNone none
  match volume.nodeFrom [] inner with
  | .ok (.directory _) =>
    match ← at? volume stores inner with
    | some repository => return repository
    | none => own
  | .ok (.file contents) => orNone (← throughFile volume stores start inner contents)
  | _ => own

end Repository

end Marginalia.Git
