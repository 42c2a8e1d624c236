/-
**What a run is asked to do.**

A `Config` says where to look (`WalkOptions`, or a revision of a repository as `GitTarget`), which
files to take (`FilterOptions`), and how to report.
-/

import Marginalia.FileKind
import Marginalia.Path

namespace Marginalia

/-- The forms of a report. -/
inductive OutputFormat where
  /-- One JSON document. -/
  | json
  /-- One JSON value per line and comment. -/
  | jsonl
  | yaml
deriving Repr, DecidableEq, Inhabited

namespace OutputFormat

/-- The name of the format in a configuration. -/
def name : OutputFormat → String
  | json => "Json"
  | jsonl => "Jsonl"
  | yaml => "Yaml"

/-- Reads a format from its name in a configuration. -/
def ofJson (value : Json) : Except DecodeError OutputFormat := do
  let name ← value.asVariant [json.name, jsonl.name, yaml.name]
  return if name = json.name then json else if name = jsonl.name then jsonl else yaml

end OutputFormat

/-- How directories are searched. -/
structure WalkOptions where
  /-- Where the search starts. -/
  roots : List Path := []
  /-- How many threads search; `none` for one per processor. -/
  threads : Option Nat := some 1
  /-- Whether hidden files are looked at. -/
  hidden : Bool := false
  /-- Whether `.gitignore` files count. -/
  gitIgnore : Bool := true
  /-- How deep the search goes; a root has depth zero. -/
  maxDepth : Option Nat := none
  /-- Whether symbolic links below the roots are followed. -/
  followLinks : Bool := false
  /-- Globs of files to take. -/
  overrideInclude : List String := []
  /-- Globs of files to leave out. -/
  overrideExclude : List String := []
deriving Repr, DecidableEq, Inhabited

/-- Which files are taken. -/
structure FilterOptions where
  /-- Extensions of Ruby files besides the usual ones. -/
  extraExtensions : List String := []
  minSize : Option Nat := none
  maxSize : Option Nat := none
deriving Repr, DecidableEq, Inhabited

namespace FilterOptions

/-- Tells the Ruby files. -/
def matcher (filter : FilterOptions) : FileMatcher :=
  FileMatcher.ofExtensions filter.extraExtensions

/-- Whether a size lies within the bounds, which themselves count as inside. -/
def sizeInRange (filter : FilterOptions) (size : Nat) : Bool :=
  filter.minSize.all (· ≤ size) && filter.maxSize.all (size ≤ ·)

end FilterOptions

/-- A revision of a repository. -/
structure GitTarget where
  /-- The repository: its own directory or its work tree. -/
  gitDir : Path
  /-- The revision as it was given. -/
  target : String := "HEAD"
deriving Repr, DecidableEq, Inhabited

/-- The repository of a target was not given. -/
structure MissingGitDir where
deriving Repr, DecidableEq, Inhabited

/-- The wording of the fault. -/
def MissingGitDir.message (_ : MissingGitDir) : String :=
  "\x60git_dir\x60 must be initialized"

/-- A target from the parts that are given; without a revision it is the current one. -/
def GitTarget.ofParts (gitDir : Option Path) (target : Option String) :
    Except MissingGitDir GitTarget :=
  match gitDir, target with
  | none, _ => .error {}
  | some gitDir, none => .ok { gitDir }
  | some gitDir, some target => .ok { gitDir, target }

/-- What a run is asked to do. -/
structure Config where
  walk : WalkOptions := {}
  filter : FilterOptions := {}
  format : OutputFormat := .json
  /-- The file that the report goes to; `none` for standard output. -/
  outputPath : Option Path := none
  /-- Whether the first fault ends the run. -/
  strict : Bool := false
  /-- The revision to read instead of the directories. -/
  git : Option GitTarget := none
deriving Repr, DecidableEq, Inhabited

end Marginalia
