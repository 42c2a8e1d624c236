/-
**The files of a revision.**

The files of a commit are read from the repository in the order in which it lists them; what the work
tree looks like does not matter.

* `rubyBlobs` lists the Ruby files of a commit.
* `readBlobs` reads them; in a strict run the first one that cannot be read is the end.
* `Checkout.run` is the result, with the time of the last change of each file.
-/

import Marginalia.Git.Name
import Marginalia.Scan.Host
import Marginalia.Scan.RunResult

namespace Marginalia.Scan

open Marginalia.Text Marginalia.Git

/-- What is listed of a commit. -/
inductive Listed where
  /-- A Ruby file. -/
  | blob (entry : TreeEntry) (fileType : FileType)
  /-- A file in the named directory whose own name is not UTF-8. -/
  | unreadableName (directory : String)
deriving Repr, DecidableEq

/-- The part of a path up to its last slash, and the name behind it. -/
def splitName (path : Path) : Bytes × Bytes :=
  let name := (path.bytes.reverse.takeWhile (· != slash)).reverse
  (path.bytes.take (path.bytes.length - name.length), name)

/-- Lists the Ruby files among some entries of a tree.  Links and other repositories are passed over;
a directory whose name is not UTF-8 ends the list. -/
def listBlobs (matcher : FileMatcher) : List TreeEntry → List Listed
  | [] => []
  | entry :: rest =>
    let (directory, name) := splitName entry.path
    match Utf8.decode? directory with
    | none => []
    | some directory =>
      if entry.mode = .link || entry.mode = .submodule then listBlobs matcher rest
      else
        match Utf8.decode? name with
        | none => .unreadableName (String.ofList directory) :: listBlobs matcher rest
        | some name =>
          let fileType := matcher.fileType (String.ofList name)
          if fileType.isSupported then .blob entry fileType :: listBlobs matcher rest
          else listBlobs matcher rest

/-- The Ruby files of a list. -/
def blobsOf (listed : List Listed) : List (TreeEntry × FileType) :=
  listed.filterMap fun
    | .blob entry fileType => some (entry, fileType)
    | .unreadableName _ => none

/-- A file of a commit that has been read. -/
structure Blob where
  entry : TreeEntry
  fileType : FileType
  contents : Bytes
deriving Repr, DecidableEq, Inhabited

/-- The comments of a file of a commit, of which it is known when files last changed. -/
def Blob.comments (modified : List (Path × Timestamp)) (blob : Blob) : FileComments :=
  { FileComments.ofBytes blob.entry.path blob.fileType blob.contents.length blob.contents with
    objectId := some blob.entry.id
    lastModified := modified.lookup blob.entry.path }

section Reading

variable {Commit Tree : Type} (reader : Reader Commit Tree) (filter : FilterOptions)

/-- What is listed of a commit. -/
def listCommit (commit : Commit) : Except Git.Fault (List Listed) := do
  let tree ← reader.tree commit
  return listBlobs filter.matcher (← reader.entries tree)

/-- The Ruby files of a commit. -/
def rubyBlobs (commit : Commit) : Except Git.Fault (List (TreeEntry × FileType)) :=
  blobsOf <$> listCommit reader filter commit

/-- Reads the contents of a file; `none` if their size is out of bounds. -/
def readBlob (entry : TreeEntry) : Except Git.Fault (Option Bytes) := do
  let contents ← reader.contents entry.id
  return if filter.sizeInRange contents.length then some contents else none

/-- Reads files one after the other.  What cannot be read is collected, or ends a strict run. -/
def readBlobs (strict : Bool) :
    List (TreeEntry × FileType) → Except Fault (List Blob × List (Path × Fault))
  | [] => .ok ([], [])
  | (entry, fileType) :: rest =>
    match readBlob reader filter entry with
    | .ok (some contents) => do
      let (blobs, errors) ← readBlobs strict rest
      return ({ entry, fileType, contents } :: blobs, errors)
    | .ok none => readBlobs strict rest
    | .error cause =>
      if strict then .error (.git cause)
      else do
        let (blobs, errors) ← readBlobs strict rest
        return (blobs, (entry.path, .git cause) :: errors)

end Reading

namespace Checkout

variable {Commit Tree : Type}

/-- What is said about the revision. -/
def revision (checkout : Checkout Commit Tree) (target : GitTarget) : Revision where
  repository := repositoryName checkout.path
  revision := target.target
  objectId := checkout.reader.id checkout.commit
  commitTime := (checkout.reader.time checkout.commit).timestamp

/-- When the files that have been read last changed. -/
def modified (checkout : Checkout Commit Tree) (blobs : List Blob) :
    Except Git.Fault (List (Path × Timestamp)) :=
  checkout.reader.lastModified checkout.commit (blobs.map (·.entry.path))

/-- The result of reading a revision.  Besides a file in a strict run, the list of files or the search
for last changes can end it. -/
def run (checkout : Checkout Commit Tree) (config : Config) (target : GitTarget) :
    Except Fault RunResult := do
  let entries ← (rubyBlobs checkout.reader config.filter checkout.commit).mapError .git
  let (blobs, errors) ← readBlobs checkout.reader config.filter config.strict entries
  let modified ← (checkout.modified blobs).mapError .git
  let result : RunResult :=
    { files := blobs.map (·.comments modified), errors
      revision := some (checkout.revision target) }
  return result.sort

/-- What is told while the files of a revision are listed. -/
def listLog (checkout : Checkout Commit Tree) (listed : List Listed) : List LogLine :=
  let line (text : String) : LogLine :=
    { level := .debug, source := "comment_lister_engine::git", text }
  let unreadable := listed.filterMap fun
    | .unreadableName directory =>
      some (line ("skipping non UTF-8 entry under '" ++ directory ++ "'"))
    | .blob .. => none
  unreadable ++ [line (toString (blobsOf listed).length ++ " Ruby blob(s) in "
    ++ checkout.reader.id checkout.commit)]

/-- What is told while the files of a revision are read. -/
def readLog (checkout : Checkout Commit Tree) (config : Config) (listed : List Listed) :
    List LogLine :=
  match readBlobs checkout.reader config.filter config.strict (blobsOf listed) with
  | .error _ => []
  | .ok (blobs, errors) =>
    errors.map (errorLog "comment_lister_engine::git")
      ++ match checkout.modified blobs with
        | .error _ => []
        | .ok modified => blobs.flatMap fun blob => (blob.comments modified).log

/-- What is told while a revision is read. -/
def log (checkout : Checkout Commit Tree) (config : Config) (target : GitTarget) : List LogLine :=
  let revision := checkout.revision target
  let scanning : LogLine :=
    { level := .info, source := "comment_lister_engine::git"
      text := "scanning " ++ revision.repository ++ " at " ++ revision.revision ++ " ("
        ++ revision.objectId ++ ")" }
  scanning :: match listCommit checkout.reader config.filter checkout.commit with
    | .error _ => []
    | .ok listed => checkout.listLog listed ++ checkout.readLog config listed

end Checkout

end Marginalia.Scan
