/-
**The report as a YAML list.**

The list has one item per file, with all its fields.  Faults and the revision do not show.  A path
must be UTF-8.
-/

import Marginalia.Scan.RunResult
import Marginalia.Yaml.Scalar

namespace Marginalia.Report

open Marginalia.Scan Marginalia.Yaml

/-- The key of a field with its blank behind. -/
def key (width : Nat) (name : String) : List Char :=
  indentation width ++ name.toList ++ [':', ' ']

/-- A field whose value is a text. -/
def textField (width : Nat) (name text : String) : List Char :=
  key width name ++ writeScalar (width + 2) text

/-- A field whose value is a number. -/
def numberField (width : Nat) (name : String) (value : Nat) : List Char :=
  key width name ++ Nat.toDigits 10 value ++ ['\n']

/-- A field whose value is a truth value. -/
def boolField (width : Nat) (name : String) (value : Bool) : List Char :=
  key width name ++ (if value then "true" else "false").toList ++ ['\n']

/-- The item of a comment. -/
def commentItem (comment : Comment) : List Char :=
  "  - text: ".toList ++ writeScalar 6 comment.text
    ++ numberField 4 "start_line" comment.startLine ++ numberField 4 "end_line" comment.endLine
    ++ numberField 4 "column" comment.column

/-- The comments of a file. -/
def commentsField (comments : List Comment) : List Char :=
  if comments.isEmpty then "  comments: []\n".toList
  else "  comments:\n".toList ++ comments.flatMap commentItem

/-- The item of a file with the path as text. -/
def fileItem (path : String) (file : FileComments) : List Char :=
  "- path: ".toList ++ writeScalar 4 path
    ++ textField 2 "file_type" file.fileType.name
    ++ boolField 2 "is_binary" file.isBinary
    ++ numberField 2 "size" file.size
    ++ commentsField file.comments
    ++ file.objectId.toList.flatMap (textField 2 "object_id")
    ++ file.lastModified.toList.flatMap fun time => textField 2 "last_modified" time.iso

/-- The items of all files; `none` if a path is not UTF-8. -/
def fileItems? : List FileComments → Option (List Char)
  | [] => some []
  | file :: rest => do
    let path ← file.path.toString?
    return fileItem path file ++ (← fileItems? rest)

/-- The list of a result; `none` if a path is not UTF-8. -/
def listing? (result : RunResult) : Option (List Char) :=
  if result.files.isEmpty then some "[]\n".toList else fileItems? result.files

end Marginalia.Report
