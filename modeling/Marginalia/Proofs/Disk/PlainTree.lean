/-
**Trees of plain files.**

A tree is plain if it holds nothing but files and directories with plain names (`Node.Plain`).  Its
files, each with the names that lead to it, can be listed (`Node.files`).

* `Node.Plain.find?_eq`: the names of a file lead to it.
* `lengthFault?_shown`: its path, from the directory that holds the tree, can be looked up if and
  only if it is `Reachable`.
* `Volume.read_shown`: then the file is read under that path.
* `readFrom_absent`: a file whose name is not there cannot be read.
-/

import Marginalia.Disk.Resolve
import Marginalia.Proofs.Lookup
import Marginalia.Proofs.Path.Pieces

namespace Marginalia.Disk

open Marginalia.Text

namespace Node

/-- **A tree of plain files**: no links, and in each directory plain names that differ. -/
inductive Plain : Node → Prop where
  | file (contents : Bytes) : Plain (.file contents)
  | directory {entries : List (Bytes × Node)} (names : ∀ entry ∈ entries, PlainName entry.1)
      (distinct : (entries.map (·.1)).Nodup) (nodes : ∀ entry ∈ entries, Plain entry.2) :
      Plain (.directory entries)

mutual

/-- The files of a tree: the names that lead to each, and its contents. -/
def files : Node → List (Location × Bytes)
  | file contents => [([], contents)]
  | link _ => []
  | directory entries => filesBelow entries

/-- The files below a directory. -/
def filesBelow : List (Bytes × Node) → List (Location × Bytes)
  | [] => []
  | (name, node) :: rest =>
    node.files.map (fun file => (name :: file.1, file.2)) ++ filesBelow rest

end

theorem files_directory (entries : List (Bytes × Node)) :
    (directory entries).files =
      entries.flatMap fun entry => entry.2.files.map fun file => (entry.1 :: file.1, file.2) := by
  rw [files]
  induction entries with
  | nil => rfl
  | cons entry rest ih => rw [filesBelow, ih, List.flatMap_cons]

mutual

/-- The directories of a tree, by the names that lead to each. -/
def directories : Node → List Location
  | directory entries => [] :: directoriesBelow entries
  | _ => []

/-- The directories below a directory. -/
def directoriesBelow : List (Bytes × Node) → List Location
  | [] => []
  | (name, node) :: rest => node.directories.map (name :: ·) ++ directoriesBelow rest

end

theorem mem_directoriesBelow {entries : List (Bytes × Node)} {name : Bytes} {node : Node}
    (member : (name, node) ∈ entries) {location : Location}
    (inside : location ∈ node.directories) : name :: location ∈ directoriesBelow entries := by
  induction entries with
  | nil => cases member
  | cons entry rest ih =>
      rw [directoriesBelow, List.mem_append]
      rcases List.mem_cons.mp member with rfl | later
      · exact .inl (List.mem_map_of_mem inside)
      · exact .inr (ih later)

theorem mem_files_directory {entries : List (Bytes × Node)} {location : Location}
    {contents : Bytes} (member : (location, contents) ∈ (directory entries).files) :
    ∃ entry ∈ entries, ∃ rest, location = entry.1 :: rest ∧ (rest, contents) ∈ entry.2.files := by
  rw [files_directory, List.mem_flatMap] at member
  obtain ⟨entry, inside, member⟩ := member
  obtain ⟨⟨rest, bytes⟩, below, equal⟩ := List.mem_map.mp member
  cases equal
  exact ⟨entry, inside, rest, rfl, below⟩

/-! ### Looking up -/

theorem find?_append (node : Node) (front back : Location) :
    node.find? (front ++ back) = (node.find? front).bind fun inner => inner.find? back := by
  induction front generalizing node with
  | nil => rfl
  | cons name rest ih =>
      rw [List.cons_append, find?, find?]
      cases node.entries.lookup name with
      | none => rfl
      | some child => exact ih child

/-- The names of an entry lead to it. -/
theorem find?_entry {top : Node} {here : Location} {entries : List (Bytes × Node)}
    (found : top.find? here = some (directory entries)) (distinct : (entries.map (·.1)).Nodup)
    {entry : Bytes × Node} (member : entry ∈ entries) :
    top.find? (here ++ [entry.1]) = some entry.2 := by
  have inside : (directory entries).entries.lookup entry.1 = some entry.2 :=
    lookup_of_mem distinct member
  rw [find?_append, found, Option.bind_some, find?, inside]
  rfl

/-- **The names of a file lead to it.** -/
theorem Plain.find?_eq {node : Node} (plain : node.Plain) {location : Location} {contents : Bytes}
    (member : (location, contents) ∈ node.files) : node.find? location = some (.file contents) := by
  induction plain generalizing location with
  | file bytes =>
      cases List.mem_singleton.mp member
      rfl
  | @directory entries _ distinct _ ih =>
      obtain ⟨entry, inside, rest, rfl, below⟩ := mem_files_directory member
      have here : (Node.directory entries).entries.lookup entry.1 = some entry.2 :=
        lookup_of_mem distinct inside
      rw [find?, here]
      exact ih entry inside below

theorem Plain.names {node : Node} (plain : node.Plain) {location : Location} {contents : Bytes}
    (member : (location, contents) ∈ node.files) : ∀ name ∈ location, PlainName name := by
  induction plain generalizing location with
  | file bytes =>
      cases List.mem_singleton.mp member
      simp
  | directory names _ _ ih =>
      obtain ⟨entry, inside, rest, rfl, below⟩ := mem_files_directory member
      intro name isName
      rcases List.mem_cons.mp isName with rfl | later
      · exact names entry inside
      · exact ih entry inside below name later

/-- What names lead to, if it is a directory, is one of the directories of the tree. -/
theorem mem_directories_of_find? {node : Node} {location : Location}
    {entries : List (Bytes × Node)} (found : node.find? location = some (directory entries)) :
    location ∈ node.directories := by
  induction location generalizing node with
  | nil =>
      cases found
      exact List.mem_cons_self
  | cons name rest ih =>
      rw [find?] at found
      cases node with
      | directory inside =>
          cases child : inside.lookup name with
          | none => simp [Node.entries, child] at found
          | some next =>
              have below := ih (by simpa [Node.entries, child] using found)
              exact List.mem_cons_of_mem _ (mem_directoriesBelow (mem_of_lookup child) below)
      | _ => simp [Node.entries] at found

/-! ### Counting -/

theorem count_le_countEntries {entries : List (Bytes × Node)} {entry : Bytes × Node}
    (member : entry ∈ entries) : entry.2.count ≤ countEntries entries := by
  induction entries with
  | nil => cases member
  | cons first rest ih =>
      rw [countEntries]
      rcases List.mem_cons.mp member with rfl | inside
      · exact Nat.le_add_right _ _
      · exact (ih inside).trans (Nat.le_add_left _ _)

/-- A node has no more nodes below it than one above it. -/
theorem count_find? {node inner : Node} {location : Location}
    (found : node.find? location = some inner) : inner.count ≤ node.count := by
  induction location generalizing node with
  | nil =>
      cases found
      exact Nat.le_refl _
  | cons name rest ih =>
      rw [find?] at found
      cases node with
      | directory entries =>
          cases child : entries.lookup name with
          | none => simp [Node.entries, child] at found
          | some next =>
              have below := ih (by simpa [Node.entries, child] using found)
              have inside : next.count ≤ countEntries entries :=
                count_le_countEntries (mem_of_lookup child)
              rw [count]
              omega
      | _ => simp [Node.entries] at found

end Node

/-! ### Reading -/

namespace Volume

variable {volume : Volume} {here : Location} {entries : List (Bytes × Node)}

/-- A path leads nowhere if its first name is not there. -/
theorem resolveFrom_absent (found : volume.top.find? here = some (.directory entries)) {path : Path}
    {name : Bytes} {rest : List Step} (sound : pathFault? path = none)
    (relative : path.isAbsolute = false) (steps : stepsOf path = .into name :: rest)
    (short : name.length ≤ longestName) (absent : entries.lookup name = none) :
    volume.resolveFrom true here path = .error .notFound := by
  have advanced : volume.advance true here (.into name :: rest) =
      if rest.isEmpty then .ok (.absent here name) else .error .notFound := by
    simp [advance, found, Nat.not_lt.mpr short, absent]
  have start : startOf here path = here := by simp [startOf, relative]
  unfold resolveFrom follow
  simp only [sound, start, steps, linkLimit, travel, advanced]
  cases rest <;> rfl

theorem nodeFrom_absent {path : Path}
    (nowhere : volume.resolveFrom true here path = .error .notFound) :
    volume.nodeFrom here path = .error .notFound := by
  unfold nodeFrom
  rw [nowhere]
  rfl

theorem readFrom_absent {path : Path}
    (nowhere : volume.resolveFrom true here path = .error .notFound) :
    volume.readFrom here path = .error .notFound := by
  unfold readFrom
  rw [nowhere]
  rfl

/-- **Plain names are followed one by one.** -/
theorem advance_files {node : Node} (plain : node.Plain) (found : volume.top.find? here = some node)
    {location : Location} {contents : Bytes} (member : (location, contents) ∈ node.files)
    (short : ∀ name ∈ location, name.length ≤ longestName) :
    volume.advance true here (location.map .into) = .ok (.arrived (here ++ location)) := by
  induction plain generalizing here location with
  | file bytes =>
      cases List.mem_singleton.mp member
      simp [advance]
  | @directory entries _ distinct nodes ih =>
      obtain ⟨entry, inside, rest, rfl, below⟩ := Node.mem_files_directory member
      have present : entries.lookup entry.1 = some entry.2 := lookup_of_mem distinct inside
      have shortName : ¬ longestName < entry.1.length :=
        Nat.not_lt.mpr (short entry.1 List.mem_cons_self)
      have later := ih entry inside (Node.find?_entry found distinct inside) below
        fun name isName => short name (List.mem_cons_of_mem _ isName)
      rw [List.append_assoc, List.singleton_append] at later
      rw [List.map_cons, advance, found]
      cases isNode : entry.2 with
      | link target =>
          have impossible := nodes entry inside
          rw [isNode] at impossible
          cases impossible
      | _ => simpa [shortName, present, isNode] using later

end Volume

theorem stepsOf_shown {names : Location} (plain : ∀ name ∈ names, PlainName name) :
    stepsOf (Path.shown names) = .stay :: names.map .into := by
  have pieces : splitBytes slash (Path.shown names).bytes = [dot] :: names :=
    Path.splitBytes_shown plain
  have ends : endsInSlash (Path.shown names) = false :=
    beq_eq_false_iff_ne.mpr (Path.getLast?_shown plain)
  have steps : names.map Step.ofPiece = names.map .into := by
    refine List.map_congr_left fun name member => ?_
    have notDot : name ≠ [dot] := fun equal => (plain name member).visible (equal ▸ rfl)
    have notDots : name ≠ [dot, dot] := fun equal => (plain name member).visible (equal ▸ rfl)
    simp [Step.ofPiece, notDot, notDots]
  have kept : names.filter (!·.isEmpty) = names := by
    refine List.filter_eq_self.mpr fun name member => ?_
    simpa using (plain name member).nonempty
  have first : Step.ofPiece [dot] = .stay := rfl
  simp [stepsOf, ends, plainSteps, pieces, kept, steps, first]

/-- Nothing is unreadable at a location and below it. -/
def Volume.ReadableFrom (volume : Volume) (location : Location) : Prop :=
  ∀ below, volume.unreadable.lookup (location ++ below) = none

/-- The path to a file, behind a dot, is not longer than the system allows, nor is a name on it. -/
structure Reachable (location : Location) : Prop where
  names : ∀ name ∈ location, name.length ≤ longestName
  path : (Path.shown location).bytes.length ≤ longestPath

theorem lengthFault?_shown {location : Location} (plain : ∀ name ∈ location, PlainName name) :
    Volume.lengthFault? (Path.shown location) = none ↔ Reachable location := by
  have pieces : splitBytes slash (Path.shown location).bytes = [dot] :: location :=
    Path.splitBytes_shown plain
  have oneByte : [dot].length ≤ longestName := by decide
  unfold Volume.lengthFault?
  rw [pieces]
  constructor
  · intro short
    split at short
    · cases short
    next fits =>
      simp only [Bool.or_eq_true, decide_eq_true_eq, not_or, List.any_eq_true, not_exists,
        not_and, not_lt] at fits
      exact ⟨fun name member => fits.2 name (List.mem_cons_of_mem _ member), fits.1⟩
  · intro reachable
    refine if_neg ?_
    simp only [Bool.or_eq_true, decide_eq_true_eq, not_or, List.any_eq_true, not_exists,
      not_and, not_lt, List.forall_mem_cons]
    exact ⟨reachable.path, oneByte, reachable.names⟩

/-- **A file of a tree is read under its path from the directory that holds the tree.** -/
theorem Volume.read_shown {volume : Volume} {entries : List (Bytes × Node)}
    (plain : (Node.directory entries).Plain)
    (found : volume.top.find? volume.workingDirectory = some (.directory entries))
    (readable : volume.ReadableFrom volume.workingDirectory)
    {location : Location} {contents : Bytes}
    (member : (location, contents) ∈ (Node.directory entries).files)
    (reachable : Reachable location) :
    volume.read (Path.shown location) = .ok contents := by
  have names := plain.names member
  have sound : pathFault? (Path.shown location) = none := by
    have some : (Path.shown location).bytes ≠ [] := by
      cases location <;> simp [Path.shown, Path.ofPieces, List.intercalate_cons_cons]
    have noZero := Path.zero_not_mem_shown names
    simp [pathFault?, some, noZero, Nat.not_lt.mpr reachable.path]
  have start : startOf volume.workingDirectory (Path.shown location) = volume.workingDirectory := by
    simp [startOf, Path.isAbsolute_shown]
  have advanced : volume.advance true volume.workingDirectory (.stay :: location.map .into) =
      .ok (.arrived (volume.workingDirectory ++ location)) := by
    rw [advance, found]
    exact advance_files plain found member reachable.names
  have arrived : volume.resolveFrom true volume.workingDirectory (Path.shown location) =
      .ok (volume.workingDirectory ++ location) := by
    unfold resolveFrom follow
    simp only [sound, start, stepsOf_shown names, linkLimit, travel, advanced]
  have isFile : volume.top.find? (volume.workingDirectory ++ location) = some (.file contents) := by
    rw [Node.find?_append, found, Option.bind_some, plain.find?_eq member]
  unfold read readFrom
  simp only [arrived, bind, Except.bind, readable location, isFile]
  rfl

end Marginalia.Disk
