/-
**The report as one JSON document.**

The document lists the files by their paths, each with its comments under the numbers 0, 1, 2, …,
and a path that could not be read with the faults that were met there.  A revision is described in
front.

* `Report.document` is the document of a result.
-/

import Marginalia.Json.Basic
import Marginalia.Scan.RunResult

namespace Marginalia.Report

open Marginalia.Scan

/-- A comment in the entry of a file. -/
def commentEntry (comment : Comment) : Json :=
  .obj [("Text", .str comment.text), ("Line", .nat comment.startLine),
    ("EndLine", .nat comment.endLine), ("CharPositionInLine", .nat comment.column)]

/-- Comments under consecutive numbers. -/
def numberedComments (number : Nat) : List Comment → Json.Members
  | [] => []
  | comment :: rest =>
    (toString number, commentEntry comment) :: numberedComments (number + 1) rest

/-- The entry of a file. -/
def fileEntry (file : FileComments) : Json :=
  let objectId := file.objectId.toList.map fun id => ("ObjectId", Json.str id)
  let lastModified := file.lastModified.toList.map fun time => ("LastModified", Json.str time.iso)
  let binary := if file.isBinary then [("Binary", Json.bool true)] else []
  .obj (objectId ++ lastModified ++ ("FileType", .str file.fileType.name) :: binary
    ++ numberedComments 0 file.comments ++ [("CommentCount", .nat file.commentCount)])

/-- The entry of a path that could not be read. -/
def errorEntry (message : String) : Json :=
  .obj [("Error", .str message), ("CommentCount", .nat 0)]

/-- The faults that an entry tells of. -/
def errorText? (entry : Json) : Option String :=
  match entry.get? "Error" with
  | some (.str message) => some message
  | _ => none

/-- Puts in the entry of a file. -/
def addFile (entries : Json.Members) (file : FileComments) : Json.Members :=
  Json.Members.insert entries file.path.display (fileEntry file)

/-- Puts in a fault; one that is already told under the same path is kept in front of it. -/
def addError (entries : Json.Members) (error : Path × Fault) : Json.Members :=
  let key := error.1.display
  let message := match (Json.Members.get? entries key).bind errorText? with
    | some earlier => earlier ++ "; " ++ error.2.message
    | none => error.2.message
  Json.Members.insert entries key (errorEntry message)

/-- The entries of all files, and of all paths that could not be read. -/
def entries (result : RunResult) : Json.Members :=
  result.errors.foldl addError (result.files.foldl addFile [])

/-- Counts one more file of a type. -/
def countType (counts : Json.Members) (file : FileComments) : Json.Members :=
  let count := match Json.Members.get? counts file.fileType.name with
    | some (.int (.ofNat count)) => count
    | _ => 0
  Json.Members.insert counts file.fileType.name (.nat (count + 1))

/-- How many files of each type there are. -/
def typeCounts (result : RunResult) : Json.Members :=
  result.files.foldl countType []

/-- What is said about the revision. -/
def revisionMembers (revision : Revision) : Json.Members :=
  [("Repository", .str revision.repository), ("Revision", .str revision.revision),
    ("ObjectId", .str revision.objectId), ("CommitTime", .str revision.commitTime.iso)]

/-- The document of a result. -/
def document (result : RunResult) : Json :=
  .obj (result.revision.toList.flatMap revisionMembers ++
    [("Files", .obj (entries result)), ("FileTypes", .obj (typeCounts result)),
      ("CommentCount", .nat result.commentCount), ("ElapsedTime", .nat result.elapsed)])

end Marginalia.Report
