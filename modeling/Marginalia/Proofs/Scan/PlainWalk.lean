/-
**Searching a tree of plain files.**

If nothing above the current directory says that files are to be ignored, and every directory can be
listed, a search that starts there comes upon each file of a plain tree once (`walk_plain`).  Going
down into a directory, no ignore file is met and no name is hidden, so every entry is looked at
(`visit_file`, `visit_directory`); the search goes as deep as there are nodes, which is deep enough
(`descend_plain`).  A file whose path is longer than the system allows is come upon as well, in a
directory that can be listed, but its size cannot be found out (`foundAt`).
-/

import Marginalia.Proofs.Ignore.Blank
import Marginalia.Scan.Walk

namespace Marginalia.Scan

open Marginalia.Text Marginalia.Disk Marginalia.Ignore

/-- **No ignore file above a directory is about what it holds**: neither a file below it nor a
directory on the way to one is left out. -/
def QuietAbove (volume : Volume) (location : Location) : Prop :=
  ∀ below node, below ≠ [] → volume.top.find? (location ++ below) = some node → node.files ≠ [] →
    layersVerdict ((layersAbove volume true location).map (·, (pathOf (location ++ below)).bytes))
      node.isDirectory ≠ .ignore

/-- Where no name above is hidden, there are no ignore files above. -/
theorem quietAbove_of_visible {volume : Volume} {location : Location}
    (visible : ∀ length < location.length, ∃ entries,
      volume.top.find? (location.take length) = some (.directory entries) ∧
        ∀ entry ∈ entries, entry.1.head? ≠ some dot) : QuietAbove volume location := by
  intro below node _ _ _
  have blank : ∀ layer ∈ (layersAbove volume true location).map
      (·, (pathOf (location ++ below)).bytes), layer.1.Blank := by
    intro layer member
    obtain ⟨inner, inside, rfl⟩ := List.mem_map.mp member
    obtain ⟨length, isLength, rfl⟩ := List.mem_map.mp inside
    obtain ⟨entries, found, shown⟩ := visible length (by simpa using isLength)
    obtain ⟨plain, git, exclusions, noRepository⟩ := blank_read found shown true
      (pathOf (location.take length))
    exact ⟨plain, git, exclusions, by simp [noRepository]⟩
  have silent := layersVerdict_append blank [] node.isDirectory
  rw [List.append_nil] at silent
  rw [silent]
  exact Verdict.noConfusion

/-- **Every directory of a tree can be listed** under its path from the top of the tree. -/
def Listable (volume : Volume) (location : Location) : Prop :=
  ∀ below entries, volume.top.find? (location ++ below) = some (.directory entries) →
    volume.listFault? (Path.shown below) (location ++ below) = none

/-- A tree in which nothing is unreadable can be listed if the paths of its directories can be looked
up. -/
theorem listable_of_directories {volume : Volume} {location : Location} {node : Node}
    (found : volume.top.find? location = some node) (readable : volume.ReadableFrom location)
    (short : ∀ below ∈ node.directories, Volume.lengthFault? (Path.shown below) = none) :
    Listable volume location := by
  intro below entries inside
  rw [Node.find?_append, found, Option.bind_some] at inside
  rw [Volume.listFault?, short below (Node.mem_directories_of_find? inside), readable below]
  rfl

namespace Search

/-- A search that only ignore files and hidden names keep from looking at everything, and in which
the ignore files above its root leave out nothing. -/
structure Open (search : Search) : Prop where
  noOverrides : search.overrides.rules = []
  noLimit : search.options.maxDepth = none
  above : search.above = layersAbove search.volume true search.top
  quiet : QuietAbove search.volume search.top
  listable : Listable search.volume search.top

variable {search : Search} {layers : List Layer}

theorem Open.verdict_ne_ignore (isOpen : search.Open) (blank : ∀ layer ∈ layers, layer.Blank)
    {below : List Bytes} {name : Bytes} {node : Node} (visible : name.head? ≠ some dot)
    (found : search.volume.top.find? (search.top ++ (below ++ [name])) = some node)
    (some : node.files ≠ []) (path : Path) :
    search.verdict layers path (below ++ [name]) node.isDirectory ≠ .ignore := by
  have overrides : search.overrides.overrideVerdict (stripStart dotSlash path.bytes)
      node.isDirectory = .silent := by
    unfold RuleSet.overrideVerdict
    rw [RuleSet.verdict_of_nil isOpen.noOverrides, isOpen.noOverrides]
    rfl
  have blankFront : ∀ layer ∈ layers.map (·, stripStart dotSlash path.bytes), layer.1.Blank := by
    intro layer member
    obtain ⟨inner, inside, rfl⟩ := List.mem_map.mp member
    exact blank inner inside
  have shown : (((below ++ [name]).getLast?.bind List.head?) == .some dot) = false := by
    simpa using visible
  have quiet := isOpen.quiet (below ++ [name]) node (by simp) found some
  unfold verdict
  simp only [overrides, layersVerdict_append blankFront, isOpen.above, shown, Bool.and_false]
  revert quiet
  cases layersVerdict ((layersAbove search.volume true search.top).map
    (·, (pathOf (search.top ++ (below ++ [name]))).bytes)) node.isDirectory <;> simp [Verdict.orElse]

/-- The directory of a search that some names lead to from its root. -/
abbrev placeAt (search : Search) (below : List Bytes) (layers : List Layer) : Place where
  path := Path.shown below
  location := search.top ++ below
  below := below
  layers := layers

/-- The ignore files in that directory and in those above it. -/
abbrev layersAt (search : Search) (below : List Bytes) (layers : List Layer) : List Layer :=
  Layer.read search.volume search.options.gitIgnore (Path.shown below) (search.top ++ below) ::
    layers

/-- What is found of a file under its path. -/
def foundAt (path : Path) (size : Nat) : Found :=
  match Volume.lengthFault? path with
  | some cause => .unmeasured path (.unreachable path cause)
  | none => .file path size

/-- What is found of a file below a directory. -/
def foundBelow (below : List Bytes) (file : Location × Bytes) : Found :=
  foundAt (Path.shown (below ++ file.1)) file.2.length

theorem foundBelow_cons (below : List Bytes) (name : Bytes) (files : List (Location × Bytes)) :
    (files.map fun file => (name :: file.1, file.2)).map (foundBelow below) =
      files.map (foundBelow (below ++ [name])) := by
  rw [List.map_map]
  refine List.map_congr_left fun file _ => ?_
  simp [foundBelow]

section Visit

variable {below : List Bytes} (names : ∀ name ∈ below, PlainName name) (name : Bytes)
  (outer : List Layer)

include names

theorem visit_file (contents : Bytes)
    (taken : search.verdict layers (Path.shown (below ++ [name])) (below ++ [name]) false ≠
      .ignore) :
    search.visit layers (search.placeAt below outer) (name, .file contents) =
      .report (foundBelow below ([name], contents)) := by
  rw [← Path.join_shown names] at taken
  have visited : search.visit layers (search.placeAt below outer) (name, .file contents) =
      match Volume.lengthFault? ((Path.shown below).join name) with
      | some cause => .report (.unmeasured ((Path.shown below).join name)
          (.unreachable ((Path.shown below).join name) cause))
      | none => .report (.file ((Path.shown below).join name) contents.length) := if_neg taken
  rw [visited, Path.join_shown names, foundBelow, foundAt]
  cases Volume.lengthFault? (Path.shown (below ++ [name])) <;> rfl

theorem visit_directory (entries : List (Bytes × Node)) :
    search.visit layers (search.placeAt below outer) (name, .directory entries) =
      if search.verdict layers (Path.shown (below ++ [name])) (below ++ [name]) true = .ignore
      then .skip else .enter (search.placeAt (below ++ [name]) layers) := by
  unfold placeAt
  rw [← Path.join_shown names, ← List.append_assoc]
  rfl

end Visit

/-- **A plain directory is searched to its end**: each of its files is found once. -/
theorem Open.descend_plain (isOpen : search.Open) {node : Node} (plain : node.Plain)
    {below : List Bytes} (names : ∀ name ∈ below, PlainName name)
    (found : search.volume.top.find? (search.top ++ below) = some node)
    (isDirectory : node.isDirectory = true) (blank : ∀ layer ∈ layers, layer.Blank) {fuel : Nat}
    (enough : node.count ≤ fuel) :
    search.descend fuel (search.placeAt below layers) = node.files.map (foundBelow below) := by
  induction plain generalizing below layers fuel with
  | file contents => cases isDirectory
  | @directory entries entryNames distinct nodes ih =>
      rw [Node.count] at enough
      obtain ⟨fuel, rfl⟩ : ∃ less, fuel = less + 1 := ⟨fuel - 1, by omega⟩
      have visible : ∀ entry ∈ entries, entry.1.head? ≠ some dot :=
        fun entry member => (entryNames entry member).visible
      have blankHere : ∀ inner ∈ search.layersAt below layers, inner.Blank := by
        intro inner member
        rcases List.mem_cons.mp member with rfl | inside
        · exact blank_read found visible _ _
        · exact blank inner inside
      have entriesHere : ((search.volume.top.find? (search.placeAt below layers).location).map
          Node.entries).getD [] = entries := by
        show ((search.volume.top.find? (search.top ++ below)).map Node.entries).getD [] = entries
        rw [found]
        rfl
      have listed : search.volume.listFault? (search.placeAt below layers).path
          (search.placeAt below layers).location = none := isOpen.listable below entries found
      rw [descend, listed, isOpen.noLimit, entriesHere, Node.files_directory, List.map_flatMap]
      refine List.flatMap_congr fun entry member => ?_
      obtain ⟨name, inner⟩ := entry
      have foundInside : search.volume.top.find? (search.top ++ (below ++ [name])) = some inner := by
        rw [← List.append_assoc]
        exact Node.find?_entry found distinct member
      have taken : inner.files ≠ [] → search.verdict (search.layersAt below layers)
          (Path.shown (below ++ [name])) (below ++ [name]) inner.isDirectory ≠ .ignore :=
        fun some => isOpen.verdict_ne_ignore blankHere (visible _ member) foundInside some _
      cases inner with
      | file contents =>
          rw [visit_file names name layers contents (taken (by simp [Node.files]))]
          rfl
      | link target => cases nodes _ member
      | directory inside =>
          rw [visit_directory names, foundBelow_cons]
          by_cases ignored : search.verdict (search.layersAt below layers)
              (Path.shown (below ++ [name])) (below ++ [name]) true = .ignore
          · -- Only a directory without files can be left out.
            have none : (Node.directory inside).files = [] :=
              not_not.mp fun some => taken some ignored
            rw [if_pos ignored, none]
            rfl
          · have longer : ∀ other ∈ below ++ [name], PlainName other := by
              intro other isName
              rcases List.mem_append.mp isName with earlier | isLast
              · exact names other earlier
              · exact List.mem_singleton.mp isLast ▸ entryNames _ member
            have fits : (Node.directory inside).count ≤ fuel :=
              (Node.count_le_countEntries member).trans (by omega)
            rw [if_neg ignored]
            exact ih _ member longer foundInside rfl blankHere fits

end Search

/-! ### The whole search -/

theorem resolve_here {volume : Volume} {entries : List (Bytes × Node)}
    (found : volume.top.find? volume.workingDirectory = some (.directory entries)) :
    volume.resolve (Path.shown []) = .ok volume.workingDirectory := by
  have sound : Volume.pathFault? (Path.shown []) = none := by decide
  have steps : stepsOf (Path.shown []) = [.stay] := by decide
  have start : Volume.startOf volume.workingDirectory (Path.shown []) = volume.workingDirectory :=
    if_neg (by decide)
  have advanced : volume.advance true volume.workingDirectory [.stay] =
      .ok (.arrived volume.workingDirectory) := by
    simp [Volume.advance, found]
  unfold Volume.resolve Volume.resolveFrom Volume.follow
  simp only [sound, steps, start, Volume.linkLimit, Volume.travel, advanced]

/-- **A search that starts in the current directory comes upon each of its files once.** -/
theorem walk_plain {volume : Volume} {entries : List (Bytes × Node)}
    (found : volume.top.find? volume.workingDirectory = some (.directory entries))
    (plain : (Node.directory entries).Plain) (quiet : QuietAbove volume volume.workingDirectory)
    (listable : Listable volume volume.workingDirectory) (threads : Option Nat) :
    walk volume { roots := [Path.shown []], threads } =
      .ok ((Node.directory entries).files.map (Search.foundBelow [])) := by
  let search : Search :=
    { volume, options := { roots := [Path.shown []], threads }
      overrides := { root := Path.shown [], rules := [] }
      top := volume.workingDirectory, above := layersAbove volume true volume.workingDirectory }
  have isOpen : search.Open := ⟨rfl, rfl, rfl, quiet, listable⟩
  have inside : volume.top.find? (volume.workingDirectory ++ []) = some (.directory entries) := by
    rw [List.append_nil]
    exact found
  have searched : search.descend volume.top.count (search.placeAt [] []) =
      (Node.directory entries).files.map (Search.foundBelow []) :=
    isOpen.descend_plain plain (by simp) inside rfl (by simp) (Node.count_find? found)
  have start : search.placeAt [] [] =
      { path := Path.shown [], location := volume.workingDirectory } := by
    simp [Search.placeAt, search]
  have root : walkRoot volume search.options search.overrides (Path.shown []) =
      search.descend volume.top.count (search.placeAt [] []) := by
    have notHyphen : (Path.shown []).components ≠ (Path.ofString "-").components := by decide
    rw [walkRoot, if_neg notHyphen, resolve_here found, start]
    simp only [found]
    rfl
  show Except.ok ([Path.shown []].flatMap (walkRoot volume search.options search.overrides)) = _
  rw [List.flatMap_singleton, root, searched]

end Marginalia.Scan
