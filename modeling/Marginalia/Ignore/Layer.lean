/-
**The ignore files of a directory.**

A directory can hold an `.ignore` file and, within a repository, a `.gitignore` file; a repository
has a list of exclusions besides.  What is said nearer to a file counts before what is said further
up.

* `Layer.read` reads the ignore files of a directory.
* `layersVerdict` is what the directories above a file say about it.
-/

import Marginalia.Disk.Resolve
import Marginalia.Ignore.RuleSet

namespace Marginalia.Ignore

open Marginalia.Text Marginalia.Disk

/-- The ignore files of a directory. -/
structure Layer where
  /-- The path of the directory that its rules are about. -/
  directory : Path
  location : Location
  /-- The rules of its `.ignore` file. -/
  plain : RuleSet
  /-- The rules of its `.gitignore` file. -/
  git : RuleSet
  /-- The exclusions of its repository. -/
  exclusions : RuleSet
  /-- Whether a repository starts here. -/
  isRepository : Bool
deriving Inhabited

/-- The first line of a file, if there is one and it is UTF-8. -/
def firstLine? (contents : Bytes) : Option (List Char) :=
  if contents.isEmpty then none
  else (RuleSet.fileLines contents).head?.bind Utf8.decode?

/-- The text behind a start, if it has it. -/
def afterText? (start : String) (text : List Char) : Option (List Char) :=
  if start.toList.isPrefixOf text then some (text.drop start.length) else none

/-- The directory that several work trees share: a file in the place of the repository names a
directory, and a file in that names the shared one. -/
def sharedDirectory? (volume : Volume) (contents : Bytes) : Option Path := do
  let line ← firstLine? contents
  let own := Path.ofString (String.ofList (← afterText? "gitdir: " line))
  let pointer ← (volume.read (own.join (Path.ofString "commondir").bytes)).toOption
  let shared ← firstLine? pointer
  let path := Path.ofString (String.ofList shared)
  return if shared.head? = some '.' then own.join path.bytes else path

/-- The rules of an ignore file that may be missing. -/
def rulesOf (directory : Path) (contents : Except Disk.Fault Bytes) : RuleSet :=
  match contents with
  | .ok contents => .ofFile directory contents
  | .error _ => { root := directory, rules := [] }

/-- The exclusions of the repository that starts in a directory. -/
def exclusionsOf (volume : Volume) (directory : Path) (location : Location)
    (repository : Except Disk.Fault Node) : RuleSet :=
  let inside := (Path.ofString "info/exclude").bytes
  match repository with
  | .ok (.file contents) =>
    match sharedDirectory? volume contents with
    | some shared => rulesOf directory (volume.read (shared.join inside))
    | none => { root := directory, rules := [] }
  | _ => rulesOf directory (volume.readFrom location ((Path.ofString ".git").join inside))

/-- Reads the ignore files of a directory. -/
def Layer.read (volume : Volume) (gitIgnore : Bool) (directory : Path) (location : Location) :
    Layer :=
  let repository := volume.nodeFrom location (.ofString ".git")
  { directory, location
    plain := rulesOf directory (volume.readFrom location (.ofString ".ignore"))
    git := if gitIgnore then rulesOf directory (volume.readFrom location (.ofString ".gitignore"))
      else { root := directory, rules := [] }
    exclusions := exclusionsOf volume directory location repository
    isRepository := repository.toBool || (volume.nodeFrom location (.ofString ".jj")).toBool }

/-- The layers up to the first in which a repository starts. -/
def upToRepository : List (Layer × Bytes) → List (Layer × Bytes)
  | [] => []
  | layer :: rest => if layer.1.isRepository then [layer] else layer :: upToRepository rest

/-- What layers say about a file, the nearest first; each comes with the path of the file as it is
matched there.  The rules of repositories count only within one, and not beyond its top. -/
def layersVerdict (layers : List (Layer × Bytes)) (isDirectory : Bool) : Verdict :=
  let within := if layers.any (·.1.isRepository) then upToRepository layers else []
  let first (layers : List (Layer × Bytes)) (rules : Layer → RuleSet) : Verdict :=
    .firstOf (layers.map fun (layer, path) => (rules layer).verdict path isDirectory)
  (first layers Layer.plain).orElse
    ((first within Layer.git).orElse (first within Layer.exclusions))

/-- The layers of the directories above a location, the nearest first. -/
def layersAbove (volume : Volume) (gitIgnore : Bool) (location : Location) : List Layer :=
  (List.range location.length).reverse.map fun length =>
    let above := location.take length
    let layer := Layer.read volume gitIgnore (pathOf above) above
    { layer with isRepository := gitIgnore && layer.isRepository }

end Marginalia.Ignore
