/-
**The objects of a repository.**

A store holds commits, each with the files of its whole tree, and tags.  Ids of objects are texts of
forty hexadecimal digits that tell the objects apart.  A commit can name a parent that is not in the
store, and its tree or the contents of a file can be missing.

* `Store.find?` finds an object by its id, `Store.startingWith` by the first digits of it.
* `Store.firstParents` is the line of first parents of a commit.
* `Store.reader` gives the answers of a store.
-/

import Marginalia.Disk.Tree
import Marginalia.Git.Reader

namespace Marginalia.Git

open Marginalia.Text Marginalia.Disk

/-- A file of a commit. -/
structure TreeFile extends TreeEntry where
  /-- The contents; `none` if the object is not in the store. -/
  contents : Option Bytes
deriving Repr, DecidableEq, Inhabited

/-- A commit. -/
structure Commit where
  id : String
  time : RecordedTime
  /-- The places of the parents among the commits of the repository. -/
  parents : List Nat
  /-- All files of the tree. -/
  files : List TreeFile
  /-- Why the tree cannot be read; `none` if it can. -/
  treeFault : Option Fault := none
deriving Repr, DecidableEq, Inhabited

namespace TreeFile

/-- What stands at a path among some files: the id of the contents and the kind. -/
def entryAt? (files : List TreeFile) (path : Path) : Option (String × Mode) :=
  (files.find? (·.path = path)).map fun file => (file.id, file.mode)

/-- The files in the order in which a tree is read: by the bytes of their paths. -/
def order (files : List TreeFile) : List TreeFile :=
  files.mergeSort fun first second => bytesLe first.path.bytes second.path.bytes

/-- The paths at which the entries of two trees differ. -/
def changed (old new : List TreeFile) : List Path :=
  ((old ++ new).map (·.path)).filter fun path => entryAt? old path != entryAt? new path

end TreeFile

/-- A tag object for a commit. -/
structure Tag where
  id : String
  /-- The place of the commit among the commits of the store. -/
  place : Nat
deriving Repr, DecidableEq, Inhabited

/-- An object. -/
inductive Object where
  | commit (place : Nat)
  /-- A tag for a commit. -/
  | tag (id : String) (place : Nat)
  /-- A directory in the tree of a commit. -/
  | tree (place : Nat) (directory : List Bytes)
  | blob (id : String)
deriving Repr, DecidableEq, Inhabited

/-- The objects of a repository. -/
structure Store where
  /-- The directory that the objects are kept in. -/
  directory : Location
  commits : List Commit
  tags : List Tag := []
  /-- The id of the tree of a commit, or of a directory in it. -/
  treeId : Nat → List Bytes → String
  /-- The id of the commit of a place at which there is none. -/
  absentId : Nat → String := fun _ => ""

namespace Store

/-- The store without objects in a directory. -/
def empty (directory : Location) : Store where
  directory := directory
  commits := []
  treeId := fun _ _ => ""

/-- The objects with their ids, trees apart. -/
def objects (store : Store) : List (String × Object) :=
  let commits := store.commits.mapIdx fun place commit => (commit.id, Object.commit place)
  let tags := store.tags.map fun tag => (tag.id, Object.tag tag.id tag.place)
  let files := (store.commits.flatMap (·.files)).filter fun file =>
    file.mode ≠ .submodule && file.contents.isSome
  commits ++ tags ++ files.map fun file => (file.id, Object.blob file.id)

/-- The object of an id. -/
def find? (store : Store) (id : String) : Option Object :=
  store.objects.lookup id

/-- The objects whose ids start with some digits. -/
def startingWith (store : Store) (digits : String) : List Object :=
  ((store.objects.filter fun (id, _) => digits.toList.isPrefixOf id.toList).map (·.2)).eraseDups

/-- The id of an object. -/
def idOf (store : Store) : Object → String
  | .commit place => (store.commits[place]?.map (·.id)).getD ""
  | .tag id _ => id
  | .tree place directory => store.treeId place directory
  | .blob id => id

/-- The commit at a place. -/
def commitAt (store : Store) (place : Nat) : Except Fault Commit :=
  match store.commits[place]? with
  | some commit => .ok commit
  | none => .error (.missingObject (store.absentId place))

/-- The first parent of a commit; `none` if it has no parents. -/
def firstParent (store : Store) (commit : Commit) : Except Fault (Option Commit) :=
  match commit.parents with
  | [] => .ok none
  | place :: _ => some <$> store.commitAt place

/-- The first parents from a commit on, at most `fuel` commits.  A commit whose parent is missing is
not reached. -/
def firstParentsFrom (store : Store) : Nat → Commit → List (Except Fault Commit)
  | 0, _ => []
  | fuel + 1, commit =>
    match store.firstParent commit with
    | .error fault => [.error fault]
    | .ok none => [.ok commit]
    | .ok (some parent) => .ok commit :: store.firstParentsFrom fuel parent

/-- A commit, its first parent, the first parent of that, and so on.  Parents are older than their
children, so that there are no more of them than commits. -/
def firstParents (store : Store) (commit : Commit) : List (Except Fault Commit) :=
  store.firstParentsFrom store.commits.length commit

/-- The tree of a commit. -/
def treeOf (commit : Commit) : Except Fault (List TreeFile) :=
  match commit.treeFault with
  | some fault => .error fault
  | none => .ok commit.files

/-- The contents of an id. -/
def contentsOf (store : Store) (id : String) : Except Fault Bytes :=
  let held := (store.commits.flatMap (·.files)).findSome? fun file =>
    if file.id = id then file.contents else none
  match held with
  | some contents => .ok contents
  | none => .error (.missingObject id)

/-- The answers of a store. -/
def reader (store : Store) : Reader Commit (List TreeFile) where
  id := Commit.id
  time := Commit.time
  tree := treeOf
  firstParent := store.firstParent
  firstParents := fun commit => .ok (store.firstParents commit)
  entries := fun files => .ok ((TreeFile.order files).map (·.toTreeEntry))
  diff := fun old new => .ok (TreeFile.changed (old.getD []) new)
  contents := store.contentsOf

end Store

end Marginalia.Git
