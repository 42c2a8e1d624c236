/-
**From paths to nodes.**

A path is followed name by name from the working directory, or from the top if it is absolute.  A
symbolic link on the way is replaced by the path that it stands for; at most forty links are followed.
A slash at the end asks for a directory.  Names and paths have a greatest length.  A file or a
directory that is there may still not be readable.

* `Volume.resolve` finds the location of a path.
* `Volume.read` reads the file of a path.
* `Volume.create` tells whether a file can be written at a path.
-/

import Marginalia.Disk.Fault
import Marginalia.Disk.Tree

namespace Marginalia.Disk

open Marginalia.Text

/-- A tree of files with a working directory. -/
structure Volume where
  /-- The topmost directory. -/
  top : Node
  /-- Where paths start that are not absolute. -/
  workingDirectory : Location := []
  /-- The files and directories that cannot be read, each with the fault that reading it meets. -/
  unreadable : List (Location × Fault) := []
deriving Repr, Inhabited

/-- What a piece of a path asks for. -/
inductive Step where
  /-- The directory itself. -/
  | stay
  /-- The directory above. -/
  | up
  /-- The entry of a name. -/
  | into (name : Bytes)
deriving Repr, DecidableEq

/-- The step of a piece of a path. -/
def Step.ofPiece (piece : Bytes) : Step :=
  if piece = [dot] then .stay else if piece = [dot, dot] then .up else .into piece

/-- Whether a path ends in a slash. -/
def endsInSlash (path : Path) : Bool :=
  path.bytes.getLast? == some slash

/-- The steps of a path without a slash at its end. -/
def plainSteps (path : Path) : List Step :=
  ((splitBytes slash path.bytes).filter (!·.isEmpty)).map Step.ofPiece

/-- The steps of a path; a slash at its end asks for the directory itself. -/
def stepsOf (path : Path) : List Step :=
  if endsInSlash path then plainSteps path ++ [.stay] else plainSteps path

/-- How far steps lead without a link. -/
inductive Progress where
  /-- To the end. -/
  | arrived (location : Location)
  /-- To the end, but for the last name, which is not there. -/
  | absent (directory : Location) (name : Bytes)
  /-- To a link, with the steps that remain. -/
  | linked (directory : Location) (target : Path) (rest : List Step)
deriving Repr

/-- The most bytes of a name. -/
def longestName : Nat := 255

/-- The most bytes of a path. -/
def longestPath : Nat := 4095

namespace Volume

/-- Follows steps up to the first link.  A link at the end is followed only on request. -/
def advance (volume : Volume) (followLast : Bool) (here : Location) :
    List Step → Except Fault Progress
  | [] => .ok (.arrived here)
  | step :: rest =>
    match volume.top.find? here with
    | some (.directory entries) =>
      match step with
      | .stay => volume.advance followLast here rest
      | .up => volume.advance followLast here.dropLast rest
      | .into name =>
        if longestName < name.length then .error .nameTooLong
        else
          match entries.lookup name with
          | none => if rest.isEmpty then .ok (.absent here name) else .error .notFound
          | some (.link target) =>
            if rest.isEmpty && !followLast then .ok (.arrived (here ++ [name]))
            else .ok (.linked here target rest)
          | some _ => volume.advance followLast (here ++ [name]) rest
    | _ => .error .notDirectory

/-- Where a path starts, seen from a directory. -/
def startOf (here : Location) (path : Path) : Location :=
  if path.isAbsolute then [] else here

/-- The number of links that are followed. -/
def linkLimit : Nat := 40

/-- Follows steps through at most `links` links. -/
def travel (volume : Volume) (followLast : Bool) (here : Location) (steps : List Step) :
    Nat → Except Fault Progress
  | 0 =>
    match volume.advance followLast here steps with
    | .ok (.linked ..) => .error .tooManyLinks
    | progress => progress
  | links + 1 =>
    match volume.advance followLast here steps with
    | .ok (.linked directory target rest) =>
      volume.travel followLast (startOf directory target) (stepsOf target ++ rest) links
    | progress => progress

/-- What is wrong with a path in itself, whatever there is on the disk. -/
def pathFault? (path : Path) : Option Fault :=
  if path.bytes.contains 0 then some .zeroByte
  else if path.bytes.isEmpty then some .notFound
  else if longestPath < path.bytes.length then some .nameTooLong
  else none

/-- Follows a path from a directory. -/
def follow (volume : Volume) (followLast : Bool) (here : Location) (path : Path) :
    Except Fault Progress :=
  match pathFault? path with
  | some fault => .error fault
  | none => volume.travel followLast (startOf here path) (stepsOf path) linkLimit

/-- The location that a path leads to from a directory. -/
def resolveFrom (volume : Volume) (followLast : Bool) (here : Location) (path : Path) :
    Except Fault Location :=
  match volume.follow followLast here path with
  | .ok (.arrived location) => .ok location
  | .ok _ => .error .notFound
  | .error fault => .error fault

/-- The location of a path. -/
def resolve (volume : Volume) (path : Path) : Except Fault Location :=
  volume.resolveFrom true volume.workingDirectory path

/-- The location of a path; a link at its end is not followed. -/
def resolveLink (volume : Volume) (path : Path) : Except Fault Location :=
  volume.resolveFrom false volume.workingDirectory path

/-- The node that a path leads to from a directory. -/
def nodeFrom (volume : Volume) (here : Location) (path : Path) : Except Fault Node := do
  match volume.top.find? (← volume.resolveFrom true here path) with
  | some node => return node
  | none => throw .notFound

/-- The contents of the file that a path leads to from a directory. -/
def readFrom (volume : Volume) (here : Location) (path : Path) : Except Fault Bytes := do
  let location ← volume.resolveFrom true here path
  if let some fault := volume.unreadable.lookup location then throw fault
  match volume.top.find? location with
  | some (.file contents) => return contents
  | some (.directory _) => throw .isDirectory
  | _ => throw .notFound

/-- The contents of the file of a path. -/
def read (volume : Volume) (path : Path) : Except Fault Bytes :=
  volume.readFrom volume.workingDirectory path

/-- What keeps the system from looking a path up that leads somewhere: it has too many bytes, or one
of its names has. -/
def lengthFault? (path : Path) : Option Fault :=
  if longestPath < path.bytes.length || (splitBytes slash path.bytes).any (longestName < ·.length)
  then some .nameTooLong
  else none

/-- What keeps a directory from being listed under a path that leads to it. -/
def listFault? (volume : Volume) (path : Path) (location : Location) : Option Fault :=
  (lengthFault? path).or (volume.unreadable.lookup location)

/-- Whether a file can be written at a path: what is there must not be a directory, and the directory
that it goes into must be there. -/
def create (volume : Volume) (path : Path) : Except Fault Unit :=
  if let some fault := pathFault? path then .error fault
  else if endsInSlash path then do
    let start := startOf volume.workingDirectory path
    match ← volume.travel true start ((plainSteps path).dropLast ++ [.stay]) linkLimit with
    | .arrived _ => throw .isDirectory
    | _ => throw .notFound
  else do
    match ← volume.follow true volume.workingDirectory path with
    | .arrived location =>
      match volume.top.find? location with
      | some (.directory _) => throw .isDirectory
      | _ => return ()
    | _ => return ()

end Volume

end Marginalia.Disk
