/-
**When a file of a commit last changed.**

A path last changed at the first commit of a line in which its entry is not what it is in the commit
behind, or behind the last commit in nothing (`IsLastChange`).  `Reader.lastModified` looks for all
paths at once, takes out those that it has found and stops when none is left.  If the repository
tells the line and the differences of its trees (`Reader.Tells`), each commit takes out the paths
that change there (`changedPaths_eq`), so the search is the same as one that goes on to the end
(`lastModifiedAlong_eq`).  What that finds for a path depends on nothing but the path
(`lookup_lastModifiedThrough`), and it finds every path that stands in the first commit
(`exists_isLastChange`): a path whose entry never changes would still stand in the last commit, and
there it changes.

The time of a change is that which is shown for the commit (`RecordedTime.timestamp`): the one that
it records, if that can be written.
-/

import Marginalia.Proofs.Git.FirstParents
import Marginalia.Proofs.Lookup
import Marginalia.Proofs.Scan.Strictness

namespace Marginalia.Git

/-- A recorded time that can be written is shown as it is. -/
theorem RecordedTime.timestamp_eq {time : RecordedTime}
    (written : (Timestamp.ofSeconds? time.seconds).isSome = true) :
    time.timestamp = ⟨time.seconds⟩ := by
  obtain ⟨instant, found⟩ := Option.isSome_iff_exists.mp written
  rw [timestamp, found, Option.getD_some]
  simp only [Timestamp.ofSeconds?] at found
  split at found
  · exact (Option.some.inj found).symm
  · cases found

variable {Commit Tree : Type} {reader : Reader Commit Tree}
  {entry : Tree → Path → Option (String × Mode)}

/-! ### The last change of one path -/

/-- What stands at a path in a commit of a line, counted from zero; nothing behind the last one. -/
def entryIn (entry : Tree → Path → Option (String × Mode)) (commits : List (Commit × Tree))
    (path : Path) (index : Nat) : Option (String × Mode) :=
  commits[index]?.bind fun commit => entry commit.2 path

/-- The entry of a path in a commit of a line differs from that in the commit behind it. -/
def ChangesAt (entry : Tree → Path → Option (String × Mode)) (commits : List (Commit × Tree))
    (path : Path) (index : Nat) : Prop :=
  entryIn entry commits path index ≠ entryIn entry commits path (index + 1)

instance (commits : List (Commit × Tree)) (path : Path) (index : Nat) :
    Decidable (ChangesAt entry commits path index) :=
  inferInstanceAs (Decidable (_ ≠ _))

/-- **The commit of a line at which a path last changed**: the first at which it changes. -/
def IsLastChange (entry : Tree → Path → Option (String × Mode)) (commits : List (Commit × Tree))
    (path : Path) (commit : Commit) : Prop :=
  ∃ index, commits[index]?.map Prod.fst = some commit ∧ ChangesAt entry commits path index ∧
    ∀ newer < index, ¬ ChangesAt entry commits path newer

/-- The first commit of a line at which a path changes. -/
def lastChange? (entry : Tree → Path → Option (String × Mode)) (path : Path) :
    List (Commit × Tree) → Option Commit
  | [] => none
  | commit :: rest =>
    if ChangesAt entry (commit :: rest) path 0 then some commit.1
    else lastChange? entry path rest

/-- **A path that stands in the first commit of a line has changed somewhere on it.** -/
theorem exists_isLastChange {line : List (Commit × Tree)} {path : Path}
    (present : (entryIn entry line path 0).isSome = true) :
    ∃ commit, lastChange? entry path line = some commit ∧ IsLastChange entry line path commit := by
  induction line with
  | nil => cases present
  | cons commit rest ih =>
      by_cases changes : ChangesAt entry (commit :: rest) path 0
      · exact ⟨commit.1, if_pos changes, 0, rfl, changes, nofun⟩
      · -- The same entry stands in the next commit, so there is one.
        have same : entryIn entry (commit :: rest) path 0 = entryIn entry rest path 0 :=
          not_not.mp changes
        rw [same] at present
        obtain ⟨older, found, index, place, changed, unchanged⟩ := ih present
        refine ⟨older, (if_neg changes).trans found, index + 1, place, changed, ?_⟩
        intro newer before
        cases newer with
        | zero => exact changes
        | succ newer => exact unchanged newer (Nat.lt_of_succ_lt_succ before)

/-! ### Looking for all paths at once -/

namespace Reader

/-- **The paths that a commit of a line changes**: those whose entries differ from the commit
behind. -/
theorem FirstParents.changedPaths_eq {head : Commit × Tree} {older : List (Commit × Tree)}
    (line : reader.FirstParents (head :: older))
    (diff : reader.ListsChanges entry) :
    ∃ paths, reader.changedPaths head.1 = .ok paths ∧
      ∀ path, path ∈ paths ↔ ChangesAt entry (head :: older) path 0 := by
  cases line with
  | @root commit tree holds first =>
      obtain ⟨paths, answer, lists⟩ := diff none tree
      refine ⟨paths, ?_, lists⟩
      simp [changedPaths, holds, first, answer, bind, Except.bind, pure, Except.pure]
  | @step commit parent tree parentTree older holds parents behind =>
      obtain ⟨paths, answer, lists⟩ := diff (some parentTree) tree
      have parentHolds : reader.tree parent = .ok parentTree := by
        cases behind with
        | root holds _ => exact holds
        | step holds _ _ => exact holds
      refine ⟨paths, ?_, lists⟩
      simp [changedPaths, holds, parents, parentHolds, answer, bind, Except.bind, Functor.map,
        Except.map]

/-- The search that goes on to the end of the line. -/
def lastModifiedThrough (reader : Reader Commit Tree)
    (entry : Tree → Path → Option (String × Mode)) (paths : List Path) :
    List (Commit × Tree) → List (Path × Timestamp)
  | [] => []
  | commit :: rest =>
    (paths.filter (ChangesAt entry (commit :: rest) · 0)).map
        (·, (reader.time commit.1).timestamp) ++
      reader.lastModifiedThrough entry
        (paths.filter (¬ ChangesAt entry (commit :: rest) · 0)) rest

/-- Without paths there is nothing to find. -/
theorem lastModifiedThrough_nil (line : List (Commit × Tree)) :
    reader.lastModifiedThrough entry [] line = [] := by
  induction line with
  | nil => rfl
  | cons commit rest ih => exact ih

/-- **Stopping when no path is left changes nothing**, on a line that can be read to its end. -/
theorem FirstParents.lastModifiedAlong_eq {line : List (Commit × Tree)}
    (parents : reader.FirstParents line) (diff : reader.ListsChanges entry) (paths : List Path) :
    reader.lastModifiedAlong paths (line.map fun commit => .ok commit.1) =
      .ok (reader.lastModifiedThrough entry paths line) := by
  induction line generalizing paths with
  | nil => rfl
  | cons commit older ih =>
      by_cases none : paths = []
      · rw [none, lastModifiedThrough_nil]
        rfl
      · obtain ⟨changed, answer, lists⟩ := parents.changedPaths_eq diff
        have isChanged : changed.contains =
            fun path => decide (ChangesAt entry (commit :: older) path 0) := by
          funext path
          rw [Bool.eq_iff_iff, List.contains_iff_mem, lists, decide_eq_true_iff]
        have later : reader.lastModifiedAlong
            (paths.filter (¬ ChangesAt entry (commit :: older) · 0))
            (older.map fun commit => .ok commit.1) =
            .ok (reader.lastModifiedThrough entry
              (paths.filter (¬ ChangesAt entry (commit :: older) · 0)) older) := by
          cases parents with
          | root => rfl
          | step _ _ behind => exact ih behind _
        rw [List.map_cons, lastModifiedAlong, if_neg (by simpa using none), lastModifiedThrough]
        simp only [answer, isChanged, List.partition_eq_filter_filter, Function.comp_def, bind,
          Except.bind, ← decide_not, later]
        rfl

/-- **What is found for a path depends on nothing but the path.** -/
theorem lookup_lastModifiedThrough (paths : List Path) (line : List (Commit × Tree))
    (path : Path) :
    (reader.lastModifiedThrough entry paths line).lookup path =
      if path ∈ paths then
        (lastChange? entry path line).map fun commit => (reader.time commit).timestamp
      else none := by
  induction line generalizing paths with
  | nil => simp [lastModifiedThrough, lastChange?]
  | cons commit rest ih =>
      rw [lastModifiedThrough, List.lookup_append, lookup_map_const, ih, lastChange?]
      by_cases listed : path ∈ paths <;>
        by_cases changes : ChangesAt entry (commit :: rest) path 0 <;> simp [listed, changes]

/-- A repository that tells the line of a commit finds the last changes without a fault. -/
theorem Tells.lastModified_eq {head : Commit × Tree} {older : List (Commit × Tree)}
    (tells : reader.Tells entry head older) (line : reader.FirstParents (head :: older))
    (paths : List Path) :
    reader.lastModified head.1 paths =
      .ok (reader.lastModifiedThrough entry paths (head :: older)) := by
  rw [lastModified, tells.walk]
  exact line.lastModifiedAlong_eq tells.diff paths

/-- What is found for a path of the first commit is the time of its last change. -/
theorem lookup_isLastChange {head : Commit × Tree} {older : List (Commit × Tree)}
    {paths : List Path} {path : Path} (listed : path ∈ paths)
    (standing : (entry head.2 path).isSome = true) :
    ∃ commit, IsLastChange entry (head :: older) path commit ∧
      (reader.lastModifiedThrough entry paths (head :: older)).lookup path =
        some (reader.time commit).timestamp := by
  have present : (entryIn entry (head :: older) path 0).isSome = true := standing
  obtain ⟨commit, found, last⟩ := exists_isLastChange present
  refine ⟨commit, last, ?_⟩
  rw [lookup_lastModifiedThrough, if_pos listed, found, Option.map_some]

end Reader

/-- **The search for last changes finds what it is defined to find.**  Of the paths of files of a
commit, it gives a time to each and to no other path: that of the commit of its last change along
the line of first parents, which is the recorded one if it can be written.  The time does not depend
on the other paths, nor on stopping early. -/
theorem lastModified_isLastChange {head : Commit × Tree} {older : List (Commit × Tree)}
    (line : reader.FirstParents (head :: older)) (tells : reader.Tells entry head older)
    {paths : List Path} (standing : ∀ path ∈ paths, (entry head.2 path).isSome = true) :
    ∃ found, reader.lastModified head.1 paths = .ok found ∧
      (∀ path, (found.lookup path).isSome = true ↔ path ∈ paths) ∧
      (∀ path ∈ paths, ∃ commit, IsLastChange entry (head :: older) path commit ∧
        found.lookup path = some (reader.time commit).timestamp ∧
        ((Timestamp.ofSeconds? (reader.time commit).seconds).isSome = true →
          found.lookup path = some ⟨(reader.time commit).seconds⟩)) ∧
      (∀ others, ∃ again, reader.lastModified head.1 others = .ok again ∧
        ∀ path ∈ paths, path ∈ others → again.lookup path = found.lookup path) ∧
      found = reader.lastModifiedThrough entry paths (head :: older) := by
  have times : ∀ path ∈ paths, ∃ commit, IsLastChange entry (head :: older) path commit ∧
      (reader.lastModifiedThrough entry paths (head :: older)).lookup path =
        some (reader.time commit).timestamp :=
    fun path listed => Reader.lookup_isLastChange listed (standing path listed)
  refine ⟨_, tells.lastModified_eq line paths, fun path => ⟨fun isFound => ?_, fun listed => ?_⟩,
    fun path listed => ?_, fun others => ⟨_, tells.lastModified_eq line others, ?_⟩, rfl⟩
  · by_contra unlisted
    rw [Reader.lookup_lastModifiedThrough, if_neg unlisted] at isFound
    cases isFound
  · obtain ⟨commit, -, looked⟩ := times path listed
    rw [looked]
    rfl
  · obtain ⟨commit, last, looked⟩ := times path listed
    refine ⟨commit, last, looked, fun written => ?_⟩
    rw [looked, RecordedTime.timestamp_eq written]
  · intro path listed again
    rw [Reader.lookup_lastModifiedThrough, Reader.lookup_lastModifiedThrough, if_pos listed,
      if_pos again]

/-- A file of a commit with contents of one byte. -/
def smallFile (path id : String) (mode : Mode) : TreeFile where
  path := .ofString path
  mode := mode
  id := id
  contents := some [0]

/-- Four commits, the last of which merges.  The file `b.rb` is taken out and put in again, and
`a.rb` becomes executable; the times do not follow the order of the commits, and that of the first
one, in which `c.rb` last changed, cannot be written. -/
def sampleStore : Store where
  directory := []
  commits :=
    [{ id := "0", time := ⟨4611686018427387904⟩, parents := [],
       files := [smallFile "a.rb" "x" .file, smallFile "b.rb" "y" .file,
         smallFile "c.rb" "z" .file] },
     { id := "1", time := ⟨40⟩, parents := [0],
       files := [smallFile "a.rb" "x" .executable, smallFile "c.rb" "z" .file] },
     { id := "2", time := ⟨20⟩, parents := [1],
       files := [smallFile "a.rb" "x" .executable, smallFile "b.rb" "y" .file,
         smallFile "c.rb" "z" .file] },
     { id := "3", time := ⟨10⟩, parents := [2, 0],
       files := [smallFile "b.rb" "y" .file, smallFile "a.rb" "x" .executable,
         smallFile "c.rb" "z" .file] }]
  treeId := fun _ _ => ""

/-- The last of them. -/
def sampleHead : Git.Commit := sampleStore.commits[3]

theorem lastModified_isLastChange_readded :
    ∃ found again, sampleStore.reader.lastModified sampleHead
        [.ofString "a.rb", .ofString "c.rb"] = .ok found ∧
      (∀ path, (found.lookup path).isSome = true ↔ path ∈ [.ofString "a.rb", .ofString "c.rb"]) ∧
      found.lookup (.ofString "a.rb") = some ⟨40⟩ ∧
      found.lookup (.ofString "c.rb") = some .epoch ∧
      sampleStore.reader.lastModified sampleHead [.ofString "b.rb", .ofString "a.rb"] = .ok again ∧
      again.lookup (.ofString "a.rb") = some ⟨40⟩ ∧
      again.lookup (.ofString "b.rb") = some ⟨20⟩ := by
  have parents : sampleStore.FirstParents 3 sampleStore.commits.reverse :=
    .step rfl rfl (.step rfl rfl (.step rfl rfl (.root rfl rfl)))
  have line := parents.reader (by decide +kernel)
  obtain ⟨found, answer, domain, -, apart, through⟩ :=
    @lastModified_isLastChange _ _ _ _ _ _ line parents.tells
      [.ofString "a.rb", .ofString "c.rb"] (by decide +kernel)
  obtain ⟨again, later, same⟩ := apart [.ofString "b.rb", .ofString "a.rb"]
  have first : found.lookup (.ofString "a.rb") = some ⟨40⟩ := by
    rw [through]
    decide +kernel
  have third : found.lookup (.ofString "c.rb") = some .epoch := by
    rw [through]
    decide +kernel
  have second : ∀ times, sampleStore.reader.lastModified sampleHead
      [.ofString "b.rb", .ofString "a.rb"] = .ok times →
      times.lookup (.ofString "b.rb") = some ⟨20⟩ := by
    intro times answer
    have evaluated : ((sampleStore.reader.lastModified sampleHead
        [.ofString "b.rb", .ofString "a.rb"]).toOption.bind (·.lookup (.ofString "b.rb"))) =
        some ⟨20⟩ := by
      decide +kernel
    rw [answer] at evaluated
    exact evaluated
  refine ⟨found, again, answer, domain, first, third, later, ?_, second again later⟩
  rw [same _ (by simp) (by simp), first]

end Marginalia.Git

/-! ### The files of a revision -/

namespace Marginalia.Scan

open Marginalia.Git

variable {Commit Tree : Type}

/-- What is listed as a file is one of the entries. -/
theorem mem_of_mem_listBlobs {matcher : FileMatcher} {entries : List TreeEntry}
    {entry : TreeEntry} {fileType : FileType}
    (listed : .blob entry fileType ∈ listBlobs matcher entries) : entry ∈ entries := by
  fun_induction listBlobs matcher entries with
  | case1 => cases listed
  | case2 => cases listed
  | case3 first rest _ _ _ _ _ _ ih => exact List.mem_cons_of_mem first (ih listed)
  | case4 first rest _ _ _ _ _ _ _ ih =>
      rcases List.mem_cons.mp listed with equal | later
      · cases equal
      · exact List.mem_cons_of_mem first (ih later)
  | case5 first rest _ _ _ _ _ _ _ _ _ _ ih =>
      rcases List.mem_cons.mp listed with equal | later
      · rw [(Listed.blob.inj equal).1]
        exact List.mem_cons_self
      · exact List.mem_cons_of_mem first (ih later)
  | case6 first rest _ _ _ _ _ _ _ _ _ _ ih => exact List.mem_cons_of_mem first (ih listed)

/-- The Ruby files of a commit are entries of its tree. -/
theorem exists_of_mem_rubyBlobs {reader : Reader Commit Tree} {filter : FilterOptions}
    {commit : Commit} {files : List (TreeEntry × FileType)} {file : TreeEntry × FileType}
    (listed : rubyBlobs reader filter commit = .ok files) (member : file ∈ files) :
    ∃ tree entries, reader.tree commit = .ok tree ∧ reader.entries tree = .ok entries ∧
      file.1 ∈ entries := by
  obtain ⟨all, whole, rfl⟩ := exists_of_map listed
  obtain ⟨tree, holds, whole⟩ := exists_of_bind whole
  obtain ⟨entries, walked, whole⟩ := exists_of_bind whole
  cases whole
  obtain ⟨found, inList, same⟩ := List.mem_filterMap.mp member
  cases found with
  | unreadableName directory => cases same
  | blob entry fileType =>
      cases same
      exact ⟨tree, entries, holds, walked, mem_of_mem_listBlobs inList⟩

theorem path_ofBytes (path : Path) (fileType : FileType) (size : Nat) (bytes : Text.Bytes) :
    (FileComments.ofBytes path fileType size bytes).path = path := by
  unfold FileComments.ofBytes
  split
  · rfl
  · split <;> rfl

/-- **Every file of a revision has the time of its last change**, if what the walk through the tree
yields stands in the tree. -/
theorem Checkout.lastModified_of_run {checkout : Checkout Commit Tree} {tree : Tree}
    {older : List (Commit × Tree)} {entry : Tree → Path → Option (String × Mode)}
    (line : checkout.reader.FirstParents ((checkout.commit, tree) :: older))
    (tells : checkout.reader.Tells entry (checkout.commit, tree) older)
    (walked : ∀ entries, checkout.reader.entries tree = .ok entries →
      ∀ file ∈ entries, (entry tree file.path).isSome = true)
    {config : Config} {target : GitTarget} {result : RunResult}
    (ran : checkout.run config target = .ok result) :
    ∀ file ∈ result.files, ∃ commit,
      IsLastChange entry ((checkout.commit, tree) :: older) file.path commit ∧
        file.lastModified = some (checkout.reader.time commit).timestamp := by
  intro file member
  obtain ⟨files, modified, listed, found, same, -⟩ := checkout.exists_of_run ran
  obtain ⟨blob, read, rfl⟩ := List.mem_map.mp (same.mem_iff.mp member)
  have path : (blob.comments modified).path = blob.entry.path := path_ofBytes _ _ _ _
  have standing : (entry tree blob.entry.path).isSome = true := by
    obtain ⟨toRead, isListed, isBlob⟩ := List.mem_filterMap.mp read
    obtain ⟨_, entries, holds, answer, inTree⟩ := exists_of_mem_rubyBlobs listed isListed
    have isTree : checkout.reader.tree checkout.commit = .ok tree := by
      cases line with
      | root holds _ => exact holds
      | step holds _ _ => exact holds
    cases isTree.symm.trans holds
    have isEntry : toRead.1 = blob.entry := by
      unfold blob? at isBlob
      split at isBlob
      · obtain ⟨contents, _, rfl⟩ := Option.map_eq_some_iff.mp isBlob
        rfl
      · cases isBlob
    exact isEntry ▸ walked entries answer toRead.1 inTree
  rw [Checkout.modified, tells.lastModified_eq line] at found
  cases found
  obtain ⟨commit, last, looked⟩ :=
    @Reader.lookup_isLastChange _ _ checkout.reader entry (checkout.commit, tree) older
      ((files.filterMap (blob? checkout.reader config.filter)).map (·.entry.path)) _
      (List.mem_map_of_mem read) standing
  exact ⟨commit, path ▸ last, looked⟩

end Marginalia.Scan
