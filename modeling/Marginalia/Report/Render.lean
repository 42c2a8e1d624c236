/-
**The text of a report.**

`Report.render` writes a result in any of the formats.
-/

import Marginalia.Config
import Marginalia.Report.Document
import Marginalia.Report.Lines
import Marginalia.Report.Listing

namespace Marginalia.Report

open Marginalia.Scan

/-- A path cannot be written because it is not UTF-8. -/
structure PathFault where
deriving Repr, DecidableEq, Inhabited

/-- The wording of the fault. -/
def PathFault.message (_ : PathFault) : String :=
  "path contains invalid UTF-8 characters"

/-- The text of a report. -/
def render (format : OutputFormat) (result : RunResult) : Except PathFault String :=
  match format with
  | .json => .ok ((document result).pretty ++ "\n")
  | .jsonl => .ok (String.ofList (writeLines result))
  | .yaml =>
    match listing? result with
    | some text => .ok (String.ofList text)
    | none => .error {}

end Marginalia.Report
