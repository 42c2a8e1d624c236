/-
**What a run asks for.**

A run does not look at the disk or into a repository by itself: it asks a `Host`.  The host searches
directories, reads files and opens repositories.

* `Found` is what a search comes upon, and `Searched` all of it with the way in which the search
  ended.
* `Checkout` is a commit that was asked for, in its repository.
-/

import Marginalia.Config
import Marginalia.Git.Reader
import Marginalia.Scan.Fault

namespace Marginalia.Scan

open Marginalia.Text

/-- What a search comes upon. -/
inductive Found where
  /-- A file with its size. -/
  | file (path : Path) (size : Nat)
  /-- A file whose size cannot be found out. -/
  | unmeasured (path : Path) (cause : WalkFault)
  | fault (cause : WalkFault)
deriving Repr, DecidableEq, Inhabited

/-- What a search hands over, and behind all of it whether it was carried through. -/
structure Searched where
  found : List Found
  ended : Except Fault Unit := .ok ()

/-- A commit that has been asked for, in its repository. -/
structure Checkout (Commit Tree : Type) where
  /-- The directory of the repository. -/
  path : Path
  reader : Git.Reader Commit Tree
  commit : Commit

/-- What a run asks for; commits and trees of repositories are handed around as they are. -/
structure Host (Commit Tree : Type) where
  /-- Searches directories. -/
  search : WalkOptions → Searched
  /-- Reads a file. -/
  read : Path → Except Disk.Fault Bytes
  /-- Opens a repository at a revision. -/
  checkout : GitTarget → Except Git.Fault (Checkout Commit Tree)

end Marginalia.Scan
