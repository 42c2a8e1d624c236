/-
**The program.**

`execute` carries out a command line and says what is to be shown: the report, which goes to
standard output or to a file, messages, and the exit code.
-/

import Marginalia.Cli.Args
import Marginalia.Report.Render
import Marginalia.Scan.World

namespace Marginalia.Cli

open Marginalia.Scan

/-- Why there is no report. -/
inductive AppFault where
  /-- The run failed. -/
  | scan (cause : Scan.Fault)
  /-- The report cannot be written to its file. -/
  | io (cause : Disk.Fault)
  /-- The report cannot be written as YAML. -/
  | yaml (cause : Report.PathFault)
  /-- The options contradict each other. -/
  | config (cause : Args.SizeConflict)
deriving Repr, DecidableEq

/-- The wording of the fault. -/
def AppFault.message : AppFault → String
  | scan cause => cause.message
  | io cause => "IO error: " ++ cause.message
  | yaml cause => "YAML error: " ++ cause.message
  | config cause => "Invalid configuration: " ++ cause.message

/-- The report of a result.  A file that it goes to is looked for before it is written. -/
def report (volume : Disk.Volume) (config : Config) (result : RunResult) :
    Except AppFault String :=
  let written := match config.outputPath with
    | some path => volume.create path
    | none => .ok ()
  match written with
  | .error cause => .error (.io cause)
  | .ok () =>
    match Report.render config.format result with
    | .ok text => .ok text
    | .error cause => .error (.yaml cause)

/-- The result and the report that a configuration asks for, of a run that takes `elapsed`
milliseconds. -/
def carryOut (world : World) (config : Config) (elapsed : Nat) :
    Except AppFault (RunResult × String) :=
  match run world config with
  | .error cause => .error (.scan cause)
  | .ok result => do
    let result := { result with elapsed }
    return (result, ← report world.volume config result)

/-- What the program leaves behind. -/
structure Output where
  exitCode : Nat
  /-- What goes to standard output. -/
  stdout : String := ""
  /-- The file that is written, with what goes into it. -/
  file : Option (Path × String) := none
  /-- The fault that ended the program. -/
  errorLine : Option String := none
  /-- The messages that are shown. -/
  log : List LogLine := []
deriving Repr, DecidableEq, Inhabited

/-- What is left behind by a command line that is not carried out. -/
def refusal : ArgError → Output
  | .displayHelp => { exitCode := 0 }
  | .displayVersion => { exitCode := 0, stdout := "comment_lister " ++ Report.version ++ "\n" }
  | _ => { exitCode := 2 }

/-- The messages that are shown: the level comes from the command line and from the environment. -/
def logFilter (args : Args) (environment : Option String) : LogFilter :=
  let filter := LogFilter.ofLevel (LogLevel.ofFlags args.verbose args.quiet)
  match environment with
  | some spec => filter.addSpec spec
  | none => filter

/-- Carries out a command line, which takes `elapsed` milliseconds. -/
def execute (world : World) (words : List String) (environment : Option String)
    (elapsed : Nat) : Output :=
  match Args.parse words with
  | .error cause => refusal cause
  | .ok args =>
    match args.toConfig with
    | .error cause =>
      { exitCode := 1
        errorLine := some ("Configuration Error: " ++ (AppFault.config cause).message) }
    | .ok config =>
      let log := (runLog world config elapsed).filter (logFilter args environment).shows
      match carryOut world config elapsed with
      | .error cause =>
        { exitCode := 1, log, errorLine := some ("Application Error: " ++ cause.message) }
      | .ok (_, text) =>
        match config.outputPath with
        | some path => { exitCode := 0, log, file := some (path, text) }
        | none => { exitCode := 0, log, stdout := text }

end Marginalia.Cli
