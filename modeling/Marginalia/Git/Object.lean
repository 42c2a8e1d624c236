/-
**From object to object.**

A tag leads to a commit, a commit to its parents and to its tree, and a tree to its entries.

* `Object.peel` is the object of a kind that an object leads to.
* `Store.ancestor` is a commit some generations back.
* `Store.entryBelow` is the entry of a tree at a path.
-/

import Marginalia.Git.Fault
import Marginalia.Git.Store

namespace Marginalia.Git

open Marginalia.Text

namespace Object

/-- The commit that an object leads to. -/
def peelCommit? : Object → Option Nat
  | commit place | tag _ place => some place
  | _ => none

/-- The tree that an object leads to. -/
def peelTree? : Object → Option (Nat × List Bytes)
  | commit place | tag _ place => some (place, [])
  | tree place directory => some (place, directory)
  | blob _ => none

/-- The object that an object leads to: of a kind, by its name, or without a name whatever a tag is
for.  A tag is searched through to its end; for everything else it is clear beforehand whether there
is such an object, and `invalid` is the fault if there is none. -/
def peel (invalid : Fault) (kind : String) (object : Object) : Except Fault Object :=
  let orInvalid (found : Option Object) : Except Fault Object :=
    match found with
    | some object => .ok object
    | none => .error invalid
  match kind, object with
  | "", tag _ place => .ok (commit place)
  | "", object => .ok object
  | "commit", object => orInvalid (object.peelCommit?.map commit)
  | "tree", object => orInvalid (object.peelTree?.map fun (place, directory) => tree place directory)
  | "blob", blob id => .ok (blob id)
  | "blob", tag id _ => .error (.notBlob id)
  | "tag", tag id place => .ok (tag id place)
  | _, _ => .error invalid

end Object

namespace Store

/-- A parent of a commit, counted from one; the zeroth is the commit itself. -/
def parent (store : Store) (place number : Nat) : Except Fault Nat :=
  match number with
  | 0 => .ok place
  | number + 1 =>
    match store.commits[place]?.bind fun commit => commit.parents[number]? with
    | some parent => .ok parent
    | none => .error (.missingParent number)

/-- The first parent of the first parent, and so on. -/
def ancestor (store : Store) (place : Nat) : Nat → Except Fault Nat
  | 0 => .ok place
  | generations + 1 => do store.ancestor (← store.parent place 1) generations

/-- The bytes of the path of an entry of a directory. -/
def entryPath (directory : List Bytes) : Bytes :=
  [slash].intercalate directory

/-- An entry of a directory in the tree of a commit. -/
def entryAt (store : Store) (place : Nat) (directory : List Bytes) (name : String) :
    Except Fault Object :=
  let entry := directory ++ [(Path.ofString name).bytes]
  let path := entryPath entry
  let files := (store.commits[place]?.map Commit.files).getD []
  match files.find? (·.path.bytes = path) with
  | some file =>
    if file.mode = .submodule || file.contents.isNone then .error (.missingObject file.id)
    else .ok (.blob file.id)
  | none =>
    if files.any fun file => (path ++ [slash]).isPrefixOf file.path.bytes then
      .ok (.tree place entry)
    else .error (.missingEntry name)

/-- The entry that names lead to, one after the other; an empty name at the end asks for a
directory. -/
def entryBelow (store : Store) (place : Nat) (directory : List Bytes) :
    List String → Except Fault Object
  | [] => .ok (.tree place directory)
  | [name] =>
    if name = "" then .error .invalidTreePath else store.entryAt place directory name
  | name :: rest =>
    if name = "" then .error .invalidTreePath
    else
      match store.entryAt place directory name with
      | .ok (.tree place directory) =>
        if rest = [""] then .ok (.tree place directory)
        else store.entryBelow place directory rest
      | .ok _ | .error (.missingObject _) => .error (.notTree name)
      | .error fault => .error fault

end Store

end Marginalia.Git
