/-
**A run.**

A run looks for the files that a configuration asks for, in directories or in a revision, and takes
out their comments.

* `Host.run` is the result.  Faults of single files are part of it, unless the run is strict.
* `Host.runLog` is what is told along the way.
-/

import Marginalia.Scan.Snapshot

namespace Marginalia.Scan

open Marginalia.Text

/-- The path under which faults of the search are reported. -/
def walkLabel : Path := .ofString "<walk>"

/-- Whether a file that was found holds Ruby. -/
def isRuby (filter : FilterOptions) (path : Path) : Bool :=
  (fileTypeOf filter.matcher path).isSupported

/-- The outcome of what was found; `none` for files that are not asked for. -/
def foundOutcome (read : Path → Except Disk.Fault Bytes) (filter : FilterOptions) :
    Found → Option Outcome
  | .fault cause => some (.error (walkLabel, .walk cause))
  | .unmeasured path cause =>
    if isRuby filter path then some (.error (walkLabel, .walk cause)) else none
  | .file path size =>
    if isRuby filter path && filter.sizeInRange size then
      some (.ofFile filter.matcher path size (read path))
    else none

/-- The result of some outcomes, strict or not. -/
def collect (strict : Bool) (outcomes : List Outcome) : Except Fault RunResult :=
  if strict then RunResult.ofOutcomes? outcomes else .ok (.ofOutcomes outcomes)

/-- What is told about a file that is left out for its size. -/
def sizeLog (filter : FilterOptions) : Found → Option LogLine
  | .fault _ | .unmeasured .. => none
  | .file path size =>
    if isRuby filter path && !filter.sizeInRange size then
      some { level := .debug, source := "comment_lister_engine::filesystem",
             text := "skipping " ++ path.display ++ " (" ++ toString size
               ++ " bytes, outside size range)" }
    else none

namespace Host

variable {Commit Tree : Type}

/-- The outcomes of searching directories. -/
def outcomes (host : Host Commit Tree) (config : Config) : List Outcome :=
  (host.search config.walk).found.filterMap (foundOutcome host.read config.filter)

/-- The result of searching directories.  All outcomes are collected before it is asked whether the
search was carried through. -/
def runDirectories (host : Host Commit Tree) (config : Config) : Except Fault RunResult := do
  let result ← collect config.strict (host.outcomes config)
  (host.search config.walk).ended
  return result

/-- The result of reading a revision. -/
def runRevision (host : Host Commit Tree) (config : Config) (target : GitTarget) :
    Except Fault RunResult := do
  let checkout ← (host.checkout target).mapError .git
  checkout.run config target

/-- The result of a run. -/
def run (host : Host Commit Tree) (config : Config) : Except Fault RunResult :=
  match config.git with
  | some target => host.runRevision config target
  | none => host.runDirectories config

/-- What is told while directories are searched. -/
def directoryLog (host : Host Commit Tree) (config : Config) : List LogLine :=
  let outcomes := host.outcomes config
  let warnings := if config.strict then []
    else (RunResult.errorsOf outcomes).map (errorLog "comment_lister_engine")
  (host.search config.walk).found.filterMap (sizeLog config.filter)
    ++ (RunResult.filesOf outcomes).flatMap FileComments.log ++ warnings

/-- What is told while a revision is read. -/
def revisionLog (host : Host Commit Tree) (config : Config) (target : GitTarget) : List LogLine :=
  match host.checkout target with
  | .error _ => []
  | .ok checkout => checkout.log config target

/-- What is told along the way, and at the end of a run that succeeds and takes `elapsed`
milliseconds. -/
def runLog (host : Host Commit Tree) (config : Config) (elapsed : Nat) : List LogLine :=
  let along := match config.git with
    | some target => host.revisionLog config target
    | none => host.directoryLog config
  match host.run config with
  | .ok result => along ++ [{ result with elapsed }.summary]
  | .error _ => along

end Host

end Marginalia.Scan
