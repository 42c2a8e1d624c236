/-
**The line of a commit.**

The line of a commit is the commit itself, its first parent, the first parent of that, and so on to a
commit without parents, each with its tree (`Reader.FirstParents`).  `Reader.Tells` is what a search
along the line relies on: the walk along first parents yields the commits of the line in order, and
the comparison of two trees lists exactly the paths at which their entries differ.

A store answers like that (`Store.FirstParents.tells`).  The commits of a line are at different
places of the store, so the line is no longer than the store (`length_le`), and the walk through the
store, which goes no further, is the whole of it (`firstParents_eq`).
-/

import Marginalia.Git.Store
import Mathlib.Data.List.Nodup
import Mathlib.Data.List.Perm.Basic

namespace Marginalia.Git

/-! ### What a repository tells -/

namespace Reader

variable {Commit Tree : Type}

/-- **A line of first parents with their trees**: from a commit down to one without parents. -/
inductive FirstParents (reader : Reader Commit Tree) : List (Commit × Tree) → Prop where
  | root {commit : Commit} {tree : Tree} (holds : reader.tree commit = .ok tree)
      (first : reader.firstParent commit = .ok none) : FirstParents reader [(commit, tree)]
  | step {commit parent : Commit} {tree parentTree : Tree} {older : List (Commit × Tree)}
      (holds : reader.tree commit = .ok tree)
      (parents : reader.firstParent commit = .ok (some parent))
      (behind : FirstParents reader ((parent, parentTree) :: older)) :
      FirstParents reader ((commit, tree) :: (parent, parentTree) :: older)

/-- **The comparison of two trees lists exactly the paths at which they differ**, where `entry` tells
what stands at a path of a tree. -/
def ListsChanges (reader : Reader Commit Tree) (entry : Tree → Path → Option (String × Mode)) :
    Prop :=
  ∀ old new, ∃ paths, reader.diff old new = .ok paths ∧
    ∀ path, path ∈ paths ↔ entry new path ≠ old.bind fun tree => entry tree path

/-- **What a repository is relied on for.** -/
structure Tells (reader : Reader Commit Tree) (entry : Tree → Path → Option (String × Mode))
    (head : Commit × Tree) (older : List (Commit × Tree)) : Prop where
  /-- The walk along first parents yields the line in order. -/
  walk : reader.firstParents head.1 = .ok ((head :: older).map fun commit => .ok commit.1)
  diff : reader.ListsChanges entry

end Reader

/-! ### The line in a store -/

/-- **A line of first parents in a store**: from the commit at a place down to one without
parents. -/
inductive Store.FirstParents (store : Store) : Nat → List Commit → Prop where
  | root {place : Nat} {commit : Commit} (found : store.commits[place]? = some commit)
      (first : commit.parents = []) : FirstParents store place [commit]
  | step {place parent : Nat} {commit : Commit} {others : List Nat} {line : List Commit}
      (found : store.commits[place]? = some commit) (parents : commit.parents = parent :: others)
      (behind : FirstParents store parent line) : FirstParents store place (commit :: line)

namespace Store.FirstParents

variable {store : Store} {place : Nat} {line : List Commit}

theorem lt_length (parents : store.FirstParents place line) : place < store.commits.length := by
  cases parents with
  | root found _ => exact (List.getElem?_eq_some_iff.mp found).1
  | step found _ _ => exact (List.getElem?_eq_some_iff.mp found).1

/-- There is one line from a place. -/
theorem unique {other : List Commit} (parents : store.FirstParents place line)
    (others : store.FirstParents place other) : line = other := by
  induction parents generalizing other with
  | root found first =>
      cases others with
      | root again _ => rw [Option.some.inj (found.symm.trans again)]
      | step again parents _ =>
          cases found.symm.trans again
          cases first.symm.trans parents
  | step found parents _ ih =>
      cases others with
      | root again first =>
          cases found.symm.trans again
          cases parents.symm.trans first
      | step again next behind =>
          cases found.symm.trans again
          cases parents.symm.trans next
          rw [ih behind]

/-- The commits of a line are at different places: from each of them a line of another length goes
on. -/
theorem exists_places (parents : store.FirstParents place line) :
    ∃ places : List Nat, places.length = line.length ∧ places.Nodup ∧
      ∀ other ∈ places, ∃ rest, store.FirstParents other rest ∧ rest.length ≤ line.length := by
  induction parents with
  | @root place _ found first =>
      refine ⟨[place], rfl, List.nodup_singleton place, ?_⟩
      intro other member
      rw [List.mem_singleton.mp member]
      exact ⟨_, .root found first, Nat.le_refl _⟩
  | @step place _ commit _ line found parents behind ih =>
      obtain ⟨places, length, distinct, shorter⟩ := ih
      refine ⟨place :: places, by simp [length], List.nodup_cons.mpr ⟨?_, distinct⟩, ?_⟩
      · intro member
        obtain ⟨rest, again, bound⟩ := shorter place member
        rw [← (step found parents behind).unique again, List.length_cons] at bound
        omega
      · intro other member
        rcases List.mem_cons.mp member with rfl | later
        · exact ⟨_, .step found parents behind, Nat.le_refl _⟩
        · obtain ⟨rest, line, bound⟩ := shorter other later
          exact ⟨rest, line, Nat.le_succ_of_le bound⟩

/-- **A line is no longer than the store.** -/
theorem length_le (parents : store.FirstParents place line) :
    line.length ≤ store.commits.length := by
  obtain ⟨places, length, distinct, lines⟩ := parents.exists_places
  have inStore : places ⊆ List.range store.commits.length := by
    intro other member
    obtain ⟨rest, line, _⟩ := lines other member
    exact List.mem_range.mpr line.lt_length
  have bound := (List.subperm_of_subset distinct inStore).length_le
  rwa [length, List.length_range] at bound

/-- The commits of a line are in the store, the first one at its place. -/
theorem commitAt_eq {head : Commit} {older : List Commit}
    (parents : store.FirstParents place (head :: older)) : store.commitAt place = .ok head := by
  cases parents with
  | root found _ => rw [commitAt, found]
  | step found _ _ => rw [commitAt, found]

/-- The parent of a commit is the first of the line behind it. -/
theorem firstParent_eq {commit parent : Commit} {older : List Commit} {others : List Nat}
    (behind : store.FirstParents place (parent :: older))
    (parents : commit.parents = place :: others) :
    store.firstParent commit = .ok (some parent) := by
  simp [firstParent, parents, behind.commitAt_eq, Functor.map, Except.map]

theorem firstParentsFrom_eq {head : Commit} {older : List Commit}
    (parents : store.FirstParents place (head :: older)) {fuel : Nat}
    (enough : (head :: older).length ≤ fuel) :
    store.firstParentsFrom fuel head = (head :: older).map .ok := by
  induction older generalizing place head fuel with
  | nil =>
      obtain ⟨fuel, rfl⟩ := Nat.exists_eq_add_of_le' enough
      cases parents with
      | root _ first => simp [firstParentsFrom, firstParent, first]
      | step _ _ behind => cases behind
  | cons parent older ih =>
      cases parents with
      | step found parents behind =>
          cases fuel with
          | zero => cases enough
          | succ fuel =>
              have later := ih behind (Nat.le_of_succ_le_succ enough)
              simp only [firstParentsFrom, behind.firstParent_eq parents, later, List.map_cons]

/-- **The walk along first parents yields the whole line.** -/
theorem firstParents_eq {head : Commit} {older : List Commit}
    (parents : store.FirstParents place (head :: older)) :
    store.firstParents head = (head :: older).map .ok :=
  parents.firstParentsFrom_eq parents.length_le

end Store.FirstParents

/-! ### What a store tells -/

namespace TreeFile

theorem isSome_entryAt?_iff {files : List TreeFile} {path : Path} :
    (entryAt? files path).isSome = true ↔ path ∈ files.map (·.path) := by
  rw [entryAt?, Option.isSome_map, List.find?_isSome, List.mem_map]
  simp only [decide_eq_true_eq]

/-- **The paths at which two trees differ** are those with different entries; a path without an
entry in either is none of them. -/
theorem mem_changed {old new : List TreeFile} {path : Path} :
    path ∈ changed old new ↔ entryAt? new path ≠ entryAt? old path := by
  rw [changed, List.mem_filter, bne_iff_ne, List.map_append, List.mem_append]
  refine ⟨fun listed => listed.2.symm, fun differ => ⟨?_, differ.symm⟩⟩
  rw [← isSome_entryAt?_iff, ← isSome_entryAt?_iff]
  cases before : entryAt? old path with
  | some entry => exact .inl rfl
  | none =>
      rw [before] at differ
      exact .inr (Option.isSome_iff_ne_none.mpr differ)

end TreeFile

namespace Store.FirstParents

variable {store : Store} {place : Nat}

/-- A commit with its tree. -/
abbrev withFiles (commit : Commit) : Commit × List TreeFile :=
  (commit, commit.files)

theorem treeOf_eq {commit : Commit} (readable : commit.treeFault = none) :
    treeOf commit = .ok commit.files := by
  rw [treeOf, readable]

/-- The line in a store is a line of the answers of the store, if the trees can be read. -/
theorem reader {line : List Commit} (parents : store.FirstParents place line)
    (readable : ∀ commit ∈ line, commit.treeFault = none) :
    store.reader.FirstParents (line.map withFiles) := by
  induction parents with
  | @root _ commit _ first =>
      refine .root (treeOf_eq (readable commit List.mem_cons_self)) ?_
      show store.firstParent commit = .ok none
      rw [firstParent, first]
  | @step _ _ commit _ line _ parents behind ih =>
      have later := ih fun other member => readable other (List.mem_cons_of_mem commit member)
      cases line with
      | nil => cases behind
      | cons parent older =>
          exact .step (treeOf_eq (readable commit List.mem_cons_self))
            (behind.firstParent_eq parents) later

/-- **A store tells what it is relied on for.** -/
theorem tells {head : Commit} {older : List Commit}
    (parents : store.FirstParents place (head :: older)) :
    store.reader.Tells TreeFile.entryAt? (withFiles head) (older.map withFiles) where
  walk := by
    show Except.ok (store.firstParents head) = _
    rw [parents.firstParents_eq]
    simp [Function.comp_def]
  diff := by
    intro old new
    refine ⟨_, rfl, fun path => ?_⟩
    cases old with
    | some tree => exact TreeFile.mem_changed
    | none => exact TreeFile.mem_changed

end Store.FirstParents

end Marginalia.Git
