/-
**The report as JSON values, one per line.**

Every comment has a line of its own, and a last line holds the totals.
-/

import Marginalia.Json.Writer
import Marginalia.Scan.RunResult

namespace Marginalia.Report

open Marginalia.Scan

/-- The version of the program. -/
def version : String := "0.3.0"

/-- The value on the line of a comment. -/
def commentLine (path : String) (comment : Comment) : Json :=
  .obj [("type", .str "comment"), ("path", .str path), ("text", .str comment.text),
    ("start_line", .nat comment.startLine), ("end_line", .nat comment.endLine),
    ("column", .nat comment.column)]

/-- The values on the lines of a file. -/
def fileLines (file : FileComments) : List Json :=
  file.comments.map (commentLine file.path.display)

/-- The value on the last line. -/
def totalLine (result : RunResult) : Json :=
  .obj [("type", .str "total"), ("version", .str version), ("files", .nat result.files.length),
    ("comments", .nat result.commentCount)]

/-- The values on all lines. -/
def lineValues (result : RunResult) : List Json :=
  result.files.flatMap fileLines ++ [totalLine result]

/-- The lines of a report. -/
def writeLines (result : RunResult) : List Char :=
  (lineValues result).flatMap fun value => value.writeCompact ++ ['\n']

end Marginalia.Report
