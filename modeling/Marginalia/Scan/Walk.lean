/-
**Searching directories.**

The search starts at each root.  A root that is a file is found as it is; below a directory, what is
hidden or ignored is passed over, and links are followed only on request.  A link that leads back to a
directory that it lies in is reported, and so is a directory that cannot be listed.

* `walk` finds the files below all roots, with the faults that are met.
-/

import Marginalia.Ignore.Layer
import Marginalia.Scan.Host

namespace Marginalia.Scan

open Marginalia.Text Marginalia.Disk Marginalia.Ignore

/-- The globs of the command line, what is to be taken first. -/
def overrideRules (options : WalkOptions) : Except WalkFault RuleSet :=
  let root := options.roots.head?.getD ⟨[]⟩
  let excludes := options.overrideExclude.map ("!" ++ ·)
  match RuleSet.overrides root (options.overrideInclude ++ excludes) with
  | .ok rules => .ok rules
  | .error fault => .error (.glob fault.line fault.cause)

/-- The search below one root. -/
structure Search where
  volume : Volume
  options : WalkOptions
  overrides : RuleSet
  /-- Where the root is. -/
  top : Location
  /-- The ignore files above the root. -/
  above : List Layer

/-- A directory that is searched. -/
structure Place where
  /-- Its path as it is shown. -/
  path : Path
  location : Location
  /-- The names that lead to it from the root. -/
  below : List Bytes := []
  /-- The ignore files of the directories above it, from the root on; the nearest first. -/
  layers : List Layer := []

/-- What to do about an entry of a directory. -/
inductive Visit where
  | skip
  | report (found : Found)
  | enter (place : Place)

namespace Search

/-- What is said about an entry: by the command line, by ignore files, or by its name, which is hidden
if it starts with a dot. -/
def verdict (search : Search) (layers : List Layer) (path : Path) (below : List Bytes)
    (isDirectory : Bool) : Verdict :=
  let shown := stripStart dotSlash path.bytes
  let absolute := (pathOf (search.top ++ below)).bytes
  let matched := layers.map (·, shown) ++ search.above.map (·, absolute)
  let hidden := !search.options.hidden && (below.getLast?.bind List.head?) == some dot
  (search.overrides.overrideVerdict shown isDirectory).orElse
    ((layersVerdict matched isDirectory).orElse (if hidden then .ignore else .silent))

/-- What to do about an entry whose node is known. -/
def visitNode (search : Search) (layers : List Layer) (path : Path) (below : List Bytes)
    (location : Location) (node : Node) : Visit :=
  if search.verdict layers path below node.isDirectory = .ignore then .skip
  else
    match node with
    | .file contents =>
      match Volume.lengthFault? path with
      | some cause => .report (.unmeasured path (.unreachable path cause))
      | none => .report (.file path contents.length)
    | .directory _ => .enter { path, location, below, layers }
    | .link _ => .skip

/-- What to do about a link: it is followed unless it leads to a directory above. -/
def visitLink (search : Search) (layers : List Layer) (place : Place) (path : Path)
    (name : Bytes) : Visit :=
  match search.volume.resolveFrom true place.location ⟨name⟩ with
  | .error cause => .report (.fault (.unreachable path cause))
  | .ok location =>
    match search.volume.top.find? location with
    | none => .skip
    | some node =>
      match layers.find? fun layer => node.isDirectory && layer.location == location with
      | some layer => .report (.fault (.cycle path layer.directory))
      | none => search.visitNode layers path (place.below ++ [name]) location node

/-- What to do about an entry of a directory. -/
def visit (search : Search) (layers : List Layer) (place : Place) (entry : Bytes × Node) :
    Visit :=
  let (name, node) := entry
  let path := place.path.join name
  match node with
  | .link _ =>
    if search.options.followLinks then search.visitLink layers place path name else .skip
  | _ => search.visitNode layers path (place.below ++ [name]) (place.location ++ [name]) node

/-- Searches a directory, at most `fuel` directories deep.  As a directory is never entered from
below itself, the number of all nodes is deep enough. -/
def descend (search : Search) : Nat → Place → List Found
  | 0, _ => []
  | fuel + 1, place =>
    if let some cause := search.volume.listFault? place.path place.location then
      [.fault (.unreachable place.path cause)]
    else if search.options.maxDepth.any (· ≤ place.below.length) then []
    else
      let layer := Layer.read search.volume search.options.gitIgnore place.path place.location
      let layers := layer :: place.layers
      let entries := ((search.volume.top.find? place.location).map Node.entries).getD []
      entries.flatMap fun entry =>
        match search.visit layers place entry with
        | .skip => []
        | .report found => [found]
        | .enter next => search.descend fuel next

end Search

/-- Searches a root.  A single hyphen is no file. -/
def walkRoot (volume : Volume) (options : WalkOptions) (overrides : RuleSet) (root : Path) :
    List Found :=
  if root.components = (Path.ofString "-").components then []
  else
    match volume.resolve root with
    | .error cause => [.fault (.unreachable root cause)]
    | .ok location =>
      match volume.top.find? location with
      | some (.file contents) =>
        let own := (volume.resolveLink root).toOption.bind volume.top.find?
        [.file root ((own.map Node.size).getD contents.length)]
      | some (.directory _) =>
        let search : Search :=
          { volume, options, overrides, top := location
            above := layersAbove volume options.gitIgnore location }
        search.descend volume.top.count { path := root, location }
      | _ => []

/-- Finds the files below all roots.  A malformed glob of the command line is the only fault that
makes the search fail as a whole. -/
def walk (volume : Volume) (options : WalkOptions) : Except WalkFault (List Found) :=
  if options.roots.isEmpty then .ok []
  else do
    let overrides ← overrideRules options
    return options.roots.flatMap (walkRoot volume options overrides)

end Marginalia.Scan
