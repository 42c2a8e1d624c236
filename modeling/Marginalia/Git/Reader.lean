/-
**Asking a repository for its objects.**

What is read of a repository are the answers of a `Reader`: commits with their times and trees, the
line of first parents of a commit, the entries of a tree, the paths at which two trees differ, and
the contents of files.  Each answer but the id and the time of a commit can be a fault.

* `Reader.changedPaths` are the paths that a commit changes.
* `Reader.lastModified` finds out when each of some paths last changed.
-/

import Marginalia.Git.Fault
import Marginalia.Timestamp

namespace Marginalia.Git

open Marginalia.Text

/-- The kinds of entries of a tree, directories apart. -/
inductive Mode where
  | file
  | executable
  /-- A symbolic link. -/
  | link
  /-- A commit of another repository. -/
  | submodule
deriving Repr, DecidableEq, Inhabited

/-- An entry of a tree or of a directory in it. -/
structure TreeEntry where
  /-- The path from the top of the tree. -/
  path : Path
  mode : Mode := .file
  /-- The id of the contents. -/
  id : String
deriving Repr, DecidableEq, Inhabited

/-- The time that a commit records, in seconds from the start of 1970.  Any number can stand there,
also one that is no point in time that can be written. -/
structure RecordedTime where
  seconds : Int
deriving Repr, DecidableEq, Inhabited

/-- The point in time that is shown for a recorded time: the start of 1970 stands in for what cannot
be written. -/
def RecordedTime.timestamp (time : RecordedTime) : Timestamp :=
  (Timestamp.ofSeconds? time.seconds).getD .epoch

/-- What a repository answers when it is asked for its objects. -/
structure Reader (Commit Tree : Type) where
  /-- The id of a commit. -/
  id : Commit → String
  /-- The time that a commit records. -/
  time : Commit → RecordedTime
  /-- The tree of a commit. -/
  tree : Commit → Except Fault Tree
  /-- The first parent of a commit; `none` if it has no parents. -/
  firstParent : Commit → Except Fault (Option Commit)
  /-- A commit, its first parent, the first parent of that, and so on. -/
  firstParents : Commit → Except Fault (List (Except Fault Commit))
  /-- The entries of a tree and of all directories in it, in the order of a walk through it. -/
  entries : Tree → Except Fault (List TreeEntry)
  /-- The paths at which a tree differs from another one, or from the tree without entries. -/
  diff : Option Tree → Tree → Except Fault (List Path)
  /-- The contents of an id. -/
  contents : String → Except Fault Bytes

namespace Reader

variable {Commit Tree : Type}

/-- The paths that a commit changes: those at which its tree differs from that of its first
parent. -/
def changedPaths (reader : Reader Commit Tree) (commit : Commit) : Except Fault (List Path) := do
  let tree ← reader.tree commit
  let parentTree ← match ← reader.firstParent commit with
    | some parent => some <$> reader.tree parent
    | none => pure none
  reader.diff parentTree tree

/-- Looks for the last change of some paths along a line of commits, the newest first: a path that a
commit changes has its time and is not looked for any longer.  The search ends when no path is left,
whatever the rest of the line is. -/
def lastModifiedAlong (reader : Reader Commit Tree) (paths : List Path) :
    List (Except Fault Commit) → Except Fault (List (Path × Timestamp))
  | [] => .ok []
  | next :: rest =>
    if paths.isEmpty then .ok []
    else do
      let commit ← next
      let changed ← reader.changedPaths commit
      let (found, pending) := paths.partition changed.contains
      let others ← reader.lastModifiedAlong pending rest
      return found.map (·, (reader.time commit).timestamp) ++ others

/-- When each of some paths last changed before a commit or at it. -/
def lastModified (reader : Reader Commit Tree) (head : Commit) (paths : List Path) :
    Except Fault (List (Path × Timestamp)) := do
  reader.lastModifiedAlong paths (← reader.firstParents head)

end Reader

end Marginalia.Git
