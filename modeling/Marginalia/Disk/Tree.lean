/-
**Files and directories.**

A `Node` is a file, a symbolic link or a directory with its entries.  A `Location` is the list of
names that leads to a node from the top, without links on the way.

* `Node.find?` looks up a location.
* `Node.put` sets the node at a location; directories on the way are made and links are followed.
-/

import Marginalia.Path

namespace Marginalia.Disk

open Marginalia.Text

/-- A node of the tree of files. -/
inductive Node where
  | file (contents : Bytes)
  /-- A symbolic link with the path that it stands for. -/
  | link (target : Path)
  | directory (entries : List (Bytes × Node))
deriving Repr, Inhabited

/-- The names that lead to a node, the topmost first. -/
abbrev Location := List Bytes

/-- The path of a location from the top. -/
def pathOf (location : Location) : Path :=
  if location.isEmpty then ⟨[slash]⟩ else ⟨location.flatMap (slash :: ·)⟩

/-- The location that a path leads to from a location, without links on the way. -/
def placeFrom (location : Location) (path : Path) : Location :=
  path.components.foldl
    (fun here component =>
      match component with
      | .root => []
      | .current => here
      | .parent => here.dropLast
      | .normal name => here ++ [name])
    location

namespace Node

/-- The entries of a directory; other nodes have none. -/
def entries : Node → List (Bytes × Node)
  | directory entries => entries
  | _ => []

/-- Whether the node is a directory. -/
def isDirectory : Node → Bool
  | directory _ => true
  | _ => false

/-- The length of a file, or of the path that a link stands for. -/
def size : Node → Nat
  | file contents => contents.length
  | link target => target.bytes.length
  | directory _ => 0

/-- The node at a location below this one. -/
def find? (node : Node) : Location → Option Node
  | [] => some node
  | name :: rest =>
    match node.entries.lookup name with
    | some child => child.find? rest
    | none => none

/-- Sets the entry of a name; a new name goes to the end. -/
def setEntry (name : Bytes) (node : Node) : List (Bytes × Node) → List (Bytes × Node)
  | [] => [(name, node)]
  | (other, old) :: rest =>
    if other = name then (name, node) :: rest else (other, old) :: setEntry name node rest

/-- Sets the node at a location without links on the way.  Directories on the way are made; a
directory that is already there keeps its entries. -/
def set (node : Node) (location : Location) (new : Node) : Node :=
  match location with
  | [] =>
    match node, new with
    | directory old, directory [] => directory old
    | _, _ => new
  | name :: rest =>
    let child := (node.entries.lookup name).getD (directory [])
    directory (setEntry name (child.set rest new) node.entries)

/-- The first link on the way to a location: the names that lead to the directory that it is in, the
path that it stands for, and the names behind it. -/
def linkOnWay? (node : Node) : Location → Option (Location × Path × Location)
  | [] => none
  | name :: rest =>
    if rest.isEmpty then none
    else
      match node.entries.lookup name with
      | some (link target) => some ([], target, rest)
      | some child => (child.linkOnWay? rest).map fun (front, target, back) =>
        (name :: front, target, back)
      | none => none

/-- Sets the node at a location.  Links on the way are followed, at most `fuel` of them. -/
def setBehindLinks (node : Node) : (fuel : Nat) → Location → Node → Node
  | 0, location, new => node.set location new
  | fuel + 1, location, new =>
    match node.linkOnWay? location with
    | some (front, target, back) =>
      node.setBehindLinks fuel (placeFrom front target ++ back) new
    | none => node.set location new

/-- Sets the node at a location.  Directories on the way are made, and links on the way are
followed. -/
def put (node : Node) (location : Location) (new : Node) : Node :=
  node.setBehindLinks 40 location new

mutual

/-- The number of nodes of a tree. -/
def count : Node → Nat
  | file _ => 1
  | link _ => 1
  | directory entries => 1 + countEntries entries

/-- The number of nodes below a directory. -/
def countEntries : List (Bytes × Node) → Nat
  | [] => 0
  | (_, node) :: rest => node.count + countEntries rest

end

end Node

end Marginalia.Disk
