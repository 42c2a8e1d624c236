/-
**What can go wrong in a run.**

A fault says what was being done when it was met; its text starts with that.
-/

import Marginalia.Git.Fault
import Marginalia.Glob.Fault

namespace Marginalia.Scan

/-- Why a part of the directories cannot be searched. -/
inductive WalkFault where
  /-- A file or a directory cannot be reached. -/
  | unreachable (path : Path) (cause : Disk.Fault)
  /-- A link leads to a directory that it lies in. -/
  | cycle (link directory : Path)
  /-- A glob is malformed. -/
  | glob (text : String) (cause : Glob.Fault)
deriving Repr, DecidableEq, Inhabited

/-- The wording of the fault. -/
def WalkFault.message : WalkFault → String
  | unreachable path cause => path.display ++ ": " ++ cause.message
  | cycle link directory =>
    "File system loop found: " ++ link.display ++ " points to an ancestor " ++ directory.display
  | glob text cause => "error parsing glob '" ++ text ++ "': " ++ cause.message

/-- What can go wrong in a run. -/
inductive Fault where
  /-- A file that was found cannot be read. -/
  | fileRead (path : Path) (cause : Disk.Fault)
  | walk (cause : WalkFault)
  | git (cause : Git.Fault)
  /-- The run cannot be carried out as asked. -/
  | config (text : String)
  | io (cause : Disk.Fault)
deriving Repr, DecidableEq, Inhabited

/-- The wording of the fault. -/
def Fault.message : Fault → String
  | fileRead path cause => "Failed to read file '" ++ path.display ++ "': " ++ cause.message
  | walk cause => "Walk error: " ++ cause.message
  | git cause => "Git error: " ++ cause.message
  | config text => "Invalid configuration: " ++ text
  | io cause => "IO error: " ++ cause.message

end Marginalia.Scan
