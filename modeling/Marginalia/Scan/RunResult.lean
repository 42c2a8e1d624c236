/-
**What a run finds.**

A run over many files yields an outcome for each of them, in an order that does not matter.

* `RunResult.ofOutcomes` collects the files and, apart from them, the faults; both are ordered by
  their paths.
* `RunResult.ofOutcomes?` is the strict way: a fault is all that is left of the run.
-/

import Marginalia.Scan.Fault
import Marginalia.Scan.FileComments

namespace Marginalia.Scan

open Marginalia.Text

/-- The revision that was read. -/
structure Revision where
  /-- The short name of the repository. -/
  repository : String
  /-- The revision as it was asked for. -/
  revision : String
  /-- The commit that the revision is. -/
  objectId : String
  commitTime : Timestamp
deriving Repr, DecidableEq, Inhabited

/-- What became of one file: its comments, or a fault and the path that it is reported under. -/
abbrev Outcome := Except (Path × Fault) FileComments

/-- The outcome of reading a file whose size has been seen before. -/
def Outcome.ofFile (matcher : FileMatcher) (path : Path) (size : Nat)
    (contents : Except Disk.Fault Bytes) : Outcome :=
  match contents with
  | .ok bytes => .ok (.ofBytes path (fileTypeOf matcher path) size bytes)
  | .error cause => .error (path, .fileRead path cause)

/-- What is told about a fault that does not end the run. -/
def errorLog (source : String) (error : Path × Fault) : LogLine where
  level := .warn
  source := source
  text := error.1.display ++ ": " ++ error.2.message

/-- What a run finds. -/
structure RunResult where
  files : List FileComments := []
  errors : List (Path × Fault) := []
  /-- How long the run took, in milliseconds. -/
  elapsed : Nat := 0
  revision : Option Revision := none
deriving Repr, DecidableEq, Inhabited

namespace RunResult

/-- The number of comments of all files. -/
def commentCount (result : RunResult) : Nat :=
  result.files.foldr (fun file total => file.commentCount + total) 0

/-- Orders the files and the faults by their paths; what has the same path keeps its order. -/
def sort (result : RunResult) : RunResult :=
  { result with
    files := result.files.mergeSort fun first second => first.path.le second.path
    errors := result.errors.mergeSort fun first second => first.1.le second.1 }

/-- The files of some outcomes. -/
def filesOf (outcomes : List Outcome) : List FileComments :=
  outcomes.filterMap fun
    | .ok file => some file
    | .error _ => none

/-- The faults of some outcomes. -/
def errorsOf (outcomes : List Outcome) : List (Path × Fault) :=
  outcomes.filterMap fun
    | .ok _ => none
    | .error fault => some fault

/-- The result of a run that goes on after a fault. -/
def ofOutcomes (outcomes : List Outcome) : RunResult :=
  ({ files := filesOf outcomes, errors := errorsOf outcomes } : RunResult).sort

/-- The result of a run that a fault ends. -/
def ofOutcomes? (outcomes : List Outcome) : Except Fault RunResult :=
  match errorsOf outcomes with
  | [] => .ok (ofOutcomes outcomes)
  | (_, fault) :: _ => .error fault

/-- A number of milliseconds as text, in the greatest unit that it reaches. -/
def durationText (milliseconds : Nat) : String :=
  if milliseconds = 0 then "0ns"
  else if milliseconds < 1000 then toString milliseconds ++ "ms"
  else
    let thousandths := ((toString (1000 + milliseconds % 1000)).toList.drop 1).reverse
    let fraction := (thousandths.dropWhile (· == '0')).reverse
    let point := if fraction.isEmpty then [] else ['.']
    toString (milliseconds / 1000) ++ String.ofList (point ++ fraction) ++ "s"

/-- What is told at the end of a run. -/
def summary (result : RunResult) : LogLine where
  level := .info
  source := "comment_lister_engine"
  text := toString result.files.length ++ " file(s), " ++ toString result.commentCount
    ++ " comment(s), " ++ toString result.errors.length ++ " error(s) in "
    ++ durationText result.elapsed

end RunResult

end Marginalia.Scan
