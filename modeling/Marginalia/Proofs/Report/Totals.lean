/-
**The totals of the document.**

Beside its entries the document tells how many comments there are, and how many files of each type
(`Totals`).  These numbers count the files of the result, while the entries stand under the paths as
they are shown, so a file that is shown under the same path as a later one, or as a fault, is
counted but has no entry of its own.

* `read?_document` reads the totals of every result.
* `sum_entries` compares any weight of the files with that of the entries.
* `totals_agree_iff`: the totals of a run are never less than what the entries add up to, and are
  the same if and only if every file is shown under a path of its own.  A root that is given twice
  is enough for them to differ (`totals_differ_twice`).
-/

import Marginalia.Proofs.Report.Entries
import Marginalia.Proofs.Scan.Scheduling
import Mathlib.Data.List.Flatten

namespace Marginalia

open Marginalia.Scan

/-- The members of an object; `none` for every other value. -/
def Json.members? : Json → Option Json.Members
  | .obj members => some members
  | _ => none

namespace Report

open Marginalia.Json (Members)

/-! ### Reading the totals -/

/-- What a document tells about all files, and what its entries tell one by one. -/
structure Totals where
  /-- The number of all comments. -/
  comments : Nat
  /-- The number of files of each type. -/
  filesOfType : List Nat
  /-- The number of comments of each entry. -/
  entryComments : List Nat
  /-- The number of entries without a fault. -/
  readable : Nat
deriving Repr, DecidableEq

/-- Reads the totals of a document. -/
def Totals.read? (document : Json) : Option Totals := do
  let entries ← (← document.get? "Files").members?
  let types ← (← document.get? "FileTypes").members?
  let comments ← (← document.get? "CommentCount").number?
  let filesOfType ← types.mapM (·.2.number?)
  let entryComments ← entries.mapM fun entry => (entry.2.get? "CommentCount").bind Json.number?
  let readable := entries.countP fun entry => (entry.2.get? "Error").isNone
  return { comments, filesOfType, entryComments, readable }

/-- The totals are what the entries add up to. -/
structure Totals.Agree (totals : Totals) : Prop where
  comments : totals.comments = totals.entryComments.sum
  files : totals.filesOfType.sum = totals.readable

/-- The number of comments that an entry tells. -/
def commentsIn (entry : Json) : Nat :=
  ((entry.get? "CommentCount").bind Json.number?).getD 0

/-- One for an entry without a fault. -/
def readableIn (entry : Json) : Nat :=
  if (entry.get? "Error").isNone then 1 else 0

theorem commentsIn_fileEntry (file : FileComments) :
    commentsIn (fileEntry file) = file.commentCount := by
  rw [commentsIn, get?_commentCount]
  rfl

theorem readableIn_fileEntry (file : FileComments) : readableIn (fileEntry file) = 1 := by
  have clean : (fileEntry file).get? "Error" = none := get?_named (by decide)
  rw [readableIn, clean]
  rfl

theorem mapM_eq_some_map {α β : Type} {read : α → Option β} {value : α → β} {items : List α}
    (reads : ∀ item ∈ items, read item = some (value item)) :
    items.mapM read = some (items.map value) := by
  induction items with
  | nil => rfl
  | cons item rest ih =>
      rw [List.forall_mem_cons] at reads
      rw [List.mapM_cons, reads.1, ih reads.2]
      rfl

theorem countP_eq_sum {α : Type} (test : α → Bool) (items : List α) :
    items.countP test = (items.map fun item => if test item then 1 else 0).sum := by
  induction items with
  | nil => rfl
  | cons item rest ih => rw [List.countP_cons, List.map_cons, List.sum_cons, ih, Nat.add_comm]

/-! ### Counting the types -/

/-- The number that a value is; zero for every other value. -/
def numberIn (value : Json) : Nat :=
  value.number?.getD 0

theorem countType_eq (counts : Members) (file : FileComments) :
    countType counts file = Members.insert counts file.fileType.name
      (.nat (((Members.get? counts file.fileType.name).map numberIn).getD 0 + 1)) := by
  unfold countType
  cases Members.get? counts file.fileType.name with
  | none => rfl
  | some value =>
      cases value with
      | int number => cases number <;> rfl
      | _ => rfl

/-- **Every file is counted once**, under its type. -/
theorem foldl_countType {counts : Members}
    (numbers : ∀ count ∈ counts, ∃ number, count.2 = .nat number) (files : List FileComments) :
    (∀ count ∈ files.foldl countType counts, ∃ number, count.2 = .nat number) ∧
      ((files.foldl countType counts).map (numberIn ·.2)).sum =
        (counts.map (numberIn ·.2)).sum + files.length := by
  induction files generalizing counts with
  | nil => exact ⟨numbers, rfl⟩
  | cons file rest ih =>
      have kept : ∀ count ∈ countType counts file, ∃ number, count.2 = .nat number := by
        intro count member
        rw [countType_eq] at member
        rcases Members.mem_insert member with rfl | old
        · exact ⟨_, rfl⟩
        · exact numbers count old
      have step := Members.sum_insert numberIn counts file.fileType.name
        (.nat (((Members.get? counts file.fileType.name).map numberIn).getD 0 + 1))
      rw [← countType_eq] at step
      obtain ⟨all, sum⟩ := ih kept
      refine ⟨all, ?_⟩
      have one : ∀ number, numberIn (.nat number) = number := fun _ => rfl
      rw [one] at step
      rw [List.foldl_cons, sum, List.length_cons]
      omega

theorem numbers_typeCounts (result : RunResult) :
    (∀ count ∈ typeCounts result, ∃ number, count.2 = .nat number) ∧
      ((typeCounts result).map (numberIn ·.2)).sum = result.files.length := by
  obtain ⟨numbers, sum⟩ := @foldl_countType [] (fun _ member => by cases member) result.files
  exact ⟨numbers, sum.trans (Nat.zero_add _)⟩

/-! ### Adding up the entries -/

/-- The entries are those of the files and faults that no later one replaces. -/
theorem exists_perm_entries (result : RunResult) : ∃ pairs : Members,
    (entries result).Perm (Members.lasting (result.files.map filePair ++ pairs)) ∧
      Members.keys pairs = result.errors.map (·.1.display) ∧
      ∀ pair ∈ pairs, ∃ message, pair.2 = errorEntry message := by
  obtain ⟨pairs, put, keys, faults⟩ :=
    foldl_addError (Members.putAll [] (result.files.map filePair)) result.errors
  refine ⟨pairs, ?_, keys, faults⟩
  rw [entries, foldl_addFile, put, ← Members.putAll_append]
  exact @Members.perm_putAll [] List.nodup_nil _

theorem mem_entries {result : RunResult} {entry : String × Json} (member : entry ∈ entries result) :
    (∃ file, entry.2 = fileEntry file) ∨ ∃ message, entry.2 = errorEntry message := by
  obtain ⟨pairs, perm, -, faults⟩ := exists_perm_entries result
  have inside := Members.lasting_subset _ (perm.mem_iff.mp member)
  rcases List.mem_append.mp inside with ofFile | ofFault
  · obtain ⟨file, -, rfl⟩ := List.mem_map.mp ofFile
    exact .inl ⟨file, rfl⟩
  · exact .inr (faults entry ofFault)

/-- The totals of a result. -/
def Totals.ofResult (result : RunResult) : Totals where
  comments := result.commentCount
  filesOfType := (typeCounts result).map (numberIn ·.2)
  entryComments := (entries result).map (commentsIn ·.2)
  readable := (entries result).countP fun entry => (entry.2.get? "Error").isNone

/-- **The totals of a result can be read** from its document. -/
theorem read?_document (result : RunResult) :
    Totals.read? (document result) = some (.ofResult result) := by
  have types : (typeCounts result).mapM (·.2.number?) =
      some ((typeCounts result).map (numberIn ·.2)) := by
    apply mapM_eq_some_map
    intro count member
    obtain ⟨number, same⟩ := (numbers_typeCounts result).1 count member
    rw [same]
    rfl
  have comments : (entries result).mapM
      (fun entry => (entry.2.get? "CommentCount").bind Json.number?) =
        some ((entries result).map (commentsIn ·.2)) := by
    apply mapM_eq_some_map
    intro entry member
    rcases mem_entries member with ⟨file, same⟩ | ⟨message, same⟩
    · rw [same, commentsIn_fileEntry, get?_commentCount]
      rfl
    · rw [same]
      rfl
  have filesTold : (document result).get? "Files" = some (.obj (entries result)) :=
    get?_document result (by decide)
  have typesTold : (document result).get? "FileTypes" = some (.obj (typeCounts result)) :=
    get?_document result (by decide)
  have countTold : (document result).get? "CommentCount" = some (.nat result.commentCount) :=
    get?_document result (by decide)
  have count : (Json.nat result.commentCount).number? = some result.commentCount := rfl
  unfold Totals.read?
  simp only [filesTold, typesTold, countTold, count, Json.members?, Option.bind_eq_bind,
    Option.bind_some, types, comments]
  rfl

theorem commentCount_eq_sum (result : RunResult) :
    result.commentCount = (result.files.map (·.commentCount)).sum := by
  rw [RunResult.commentCount, List.sum_eq_foldr, List.foldr_map]

/-- **The entries weigh at most as much as the files**, in any weight that faults do not have.  They
weigh the same if and only if no later file and no fault takes the place of a file that weighs
something. -/
theorem sum_entries (result : RunResult) (weight : Json → Nat)
    (weightless : ∀ message, weight (errorEntry message) = 0) :
    ((entries result).map (weight ·.2)).sum ≤
        (result.files.map fun file => weight (fileEntry file)).sum ∧
      (((entries result).map (weight ·.2)).sum =
          (result.files.map fun file => weight (fileEntry file)).sum ↔
        (result.files.Pairwise fun file later =>
          file.path.display = later.path.display → weight (fileEntry file) = 0) ∧
        ∀ file ∈ result.files, ∀ error ∈ result.errors,
          error.1.display = file.path.display → weight (fileEntry file) = 0) := by
  obtain ⟨pairs, perm, keys, faults⟩ := exists_perm_entries result
  have nothing : ∀ pair ∈ pairs, weight pair.2 = 0 := by
    intro pair member
    obtain ⟨message, same⟩ := faults pair member
    rw [same, weightless]
  have here : ((entries result).map (weight ·.2)).sum =
      ((Members.lasting (result.files.map filePair ++ pairs)).map (weight ·.2)).sum :=
    (perm.map _).sum_nat
  have there : ((result.files.map filePair ++ pairs).map (weight ·.2)).sum =
      (result.files.map fun file => weight (fileEntry file)).sum := by
    have none : (pairs.map (weight ·.2)).sum = 0 := by
      rw [List.sum_eq_zero_iff_forall_eq_nat, List.forall_mem_map]
      exact nothing
    rw [List.map_append, List.sum_append, none, List.map_map]
    rfl
  rw [here, ← there]
  refine ⟨Members.sum_lasting_le _ _, ?_⟩
  have faultsApart : pairs.Pairwise fun pair later => pair.1 = later.1 → weight pair.2 = 0 :=
    List.pairwise_of_forall_mem_list fun pair member _ _ _ => nothing pair member
  rw [Members.sum_lasting_eq_iff, List.pairwise_append, List.pairwise_map,
    and_iff_right faultsApart]
  refine and_congr_right fun _ => ?_
  constructor
  · intro free file fileMember error errorMember same
    have shown : error.1.display ∈ Members.keys pairs :=
      keys ▸ List.mem_map_of_mem errorMember
    obtain ⟨pair, pairMember, name⟩ := List.mem_map.mp shown
    exact free _ (List.mem_map_of_mem fileMember) pair pairMember (same.symm.trans name.symm)
  · intro free entry entryMember pair pairMember same
    obtain ⟨file, fileMember, rfl⟩ := List.mem_map.mp entryMember
    have shown : pair.1 ∈ result.errors.map (·.1.display) := keys ▸ List.mem_map_of_mem pairMember
    obtain ⟨error, errorMember, name⟩ := List.mem_map.mp shown
    exact free file fileMember error errorMember (name.trans same.symm)

namespace Totals

theorem comments_ofResult (result : RunResult) :
    (ofResult result).comments =
      (result.files.map fun file => commentsIn (fileEntry file)).sum := by
  simp only [commentsIn_fileEntry]
  exact commentCount_eq_sum result

theorem readable_ofResult (result : RunResult) :
    (ofResult result).readable = ((entries result).map (readableIn ·.2)).sum :=
  countP_eq_sum _ _

theorem files_ofResult (result : RunResult) :
    (ofResult result).filesOfType.sum =
      (result.files.map fun file => readableIn (fileEntry file)).sum := by
  simp only [readableIn_fileEntry, List.map_const', List.sum_replicate_nat, Nat.mul_one]
  exact (numbers_typeCounts result).2

/-- The totals are never less than what the entries add up to. -/
theorem ofResult_le (result : RunResult) :
    (ofResult result).entryComments.sum ≤ (ofResult result).comments ∧
      (ofResult result).readable ≤ (ofResult result).filesOfType.sum := by
  rw [comments_ofResult, readable_ofResult, files_ofResult]
  exact ⟨(sum_entries result commentsIn fun _ => rfl).1,
    (sum_entries result readableIn fun _ => rfl).1⟩

/-- **The totals agree with the entries** if and only if every file is shown under a path of its
own. -/
theorem agree_ofResult_iff (result : RunResult) :
    (ofResult result).Agree ↔ ShownApart result.files result.errors := by
  have comments := (sum_entries result commentsIn fun _ => rfl).2
  have files := (sum_entries result readableIn fun _ => rfl).2
  constructor
  · -- The comments do not tell: a file that has none can be replaced and their number stays.
    rintro ⟨-, same⟩
    rw [readable_ofResult, files_ofResult, eq_comm, files] at same
    simp only [readableIn_fileEntry, Nat.succ_ne_zero, imp_false] at same
    exact ⟨List.pairwise_map.mpr same.1, same.2⟩
  · rintro ⟨distinct, fromErrors⟩
    have free : ∀ weight : Json → Nat,
        (result.files.Pairwise fun file later =>
          file.path.display = later.path.display → weight (fileEntry file) = 0) ∧
        ∀ file ∈ result.files, ∀ error ∈ result.errors,
          error.1.display = file.path.display → weight (fileEntry file) = 0 := by
      intro weight
      refine ⟨(List.pairwise_map.mp distinct).imp fun different same => absurd same different, ?_⟩
      intro file fileMember error errorMember same
      exact absurd same (fromErrors file fileMember error errorMember)
    refine ⟨?_, ?_⟩
    · rw [comments_ofResult]
      exact (comments.mpr (free commentsIn)).symm
    · rw [readable_ofResult, files_ofResult]
      exact (files.mpr (free readableIn)).symm

end Totals

/-! ### Runs -/

theorem ShownApart.perm {files others : List FileComments} {errors faults : List (Path × Fault)}
    (apart : ShownApart files errors) (sameFiles : files.Perm others)
    (sameErrors : errors.Perm faults) : ShownApart others faults := by
  refine ⟨(sameFiles.map _).nodup_iff.mp apart.distinct, ?_⟩
  intro file fileMember error errorMember
  exact apart.fromErrors file (sameFiles.mem_iff.mpr fileMember) error
    (sameErrors.mem_iff.mpr errorMember)

/-- The outcomes of searching a root. -/
def rootOutcomes (volume : Disk.Volume) (config : Config) (overrides : Ignore.RuleSet)
    (root : Path) : List Outcome :=
  (walkRoot volume config.walk overrides root).filterMap (foundOutcome volume.read config.filter)

theorem directoryOutcomes_eq {volume : Disk.Volume} {config : Config} {overrides : Ignore.RuleSet}
    (rules : overrideRules config.walk = .ok overrides) :
    directoryOutcomes volume config =
      .ok (config.walk.roots.flatMap (rootOutcomes volume config overrides)) := by
  have walked : walk volume config.walk =
      .ok (config.walk.roots.flatMap (walkRoot volume config.walk overrides)) := by
    unfold walk
    rw [rules]
    cases config.walk.roots <;> rfl
  rw [directoryOutcomes, walked]
  dsimp only
  rw [List.filterMap_flatMap]
  rfl

theorem runArriving_tolerant (arrival : Arrival) {world : World} {config : Config}
    {outcomes : List Outcome} (found : directoryOutcomes world.volume config = .ok outcomes) :
    runArriving arrival world { config with strict := false, git := none } =
      .ok (.ofOutcomes (arrival.order outcomes)) := by
  have same : directoryOutcomes world.volume { config with strict := false } = .ok outcomes := found
  have searched := runArriving_directories arrival world { config with strict := false }
  rw [same] at searched
  exact searched

/-- A root that is given twice has its files found twice. -/
theorem not_shownApart_of_twice {roots : List Path} {root : Path} (twice : 2 ≤ roots.count root)
    {below : Path → List Outcome} {file : FileComments} (found : .ok file ∈ below root)
    (errors : List (Path × Fault)) :
    ¬ ShownApart (RunResult.filesOf (roots.flatMap below)) errors := by
  intro apart
  have rootTwice : [root, root].Sublist roots := List.replicate_sublist_iff.mpr twice
  have outcomesTwice : (below root ++ below root).Sublist (roots.flatMap below) := by
    simpa using rootTwice.flatMap below
  have filesTwice : (RunResult.filesOf (below root) ++ RunResult.filesOf (below root)).Sublist
      (RunResult.filesOf (roots.flatMap below)) := by
    rw [RunResult.filesOf, ← List.filterMap_append]
    exact outcomesTwice.filterMap _
  have distinct := (filesTwice.map fun file => file.path.display).nodup apart.distinct
  rw [List.map_append, List.nodup_append] at distinct
  have member : file.path.display ∈ (RunResult.filesOf (below root)).map (·.path.display) :=
    List.mem_map_of_mem (RunResult.mem_filesOf.mpr found)
  exact distinct.2.2 _ member _ member rfl

theorem shownApart_ofOutcomes {outcomes arrived : List Outcome} (perm : arrived.Perm outcomes) :
    ShownApart (RunResult.ofOutcomes arrived).files (RunResult.ofOutcomes arrived).errors ↔
      ShownApart (RunResult.filesOf outcomes) (RunResult.errorsOf outcomes) := by
  obtain ⟨files, errors⟩ := RunResult.perm_ofOutcomes arrived
  have sameFiles := files.trans (perm.filterMap _)
  have sameErrors := errors.trans (perm.filterMap _)
  exact ⟨fun apart => apart.perm sameFiles sameErrors,
    fun apart => apart.perm sameFiles.symm sameErrors.symm⟩

/-- **The totals of a tolerant run** are never less than what the entries add up to, and agree with
them if and only if every file that is found is shown under a path of its own.  They differ as soon
as a file is read below a root that is given twice. -/
theorem totals_agree_iff (arrival : Arrival) {world : World} {config : Config}
    {outcomes : List Outcome} (found : directoryOutcomes world.volume config = .ok outcomes) :
    ∃ result totals,
      runArriving arrival world { config with strict := false, git := none } = .ok result ∧
      Totals.read? (document result) = some totals ∧
      (totals.Agree ↔ ShownApart (RunResult.filesOf outcomes) (RunResult.errorsOf outcomes)) ∧
      totals.entryComments.sum ≤ totals.comments ∧
      totals.readable ≤ totals.filesOfType.sum ∧
      ∀ overrides, overrideRules config.walk = .ok overrides →
        ∀ root, 2 ≤ config.walk.roots.count root →
          ∀ file, .ok file ∈ rootOutcomes world.volume config overrides root →
            ¬ totals.Agree := by
  have agree := (Totals.agree_ofResult_iff _).trans (shownApart_ofOutcomes (arrival.perm outcomes))
  refine ⟨_, _, runArriving_tolerant arrival found, read?_document _, agree,
    (Totals.ofResult_le _).1, (Totals.ofResult_le _).2, ?_⟩
  intro overrides rules root twice file read agrees
  have all : outcomes = config.walk.roots.flatMap (rootOutcomes world.volume config overrides) :=
    Except.ok.inj (found.symm.trans (directoryOutcomes_eq rules))
  rw [agree, all] at agrees
  exact not_shownApart_of_twice twice read _ agrees

/-- A directory with one file. -/
def oneFile : World where
  volume :=
    { top := .directory
        [((Path.ofString "b.rb").bytes, .file (Path.ofString "# b\n").bytes)] }

/-- A search from some roots. -/
def searchFrom (roots : List String) : Config where
  walk := { roots := roots.map Path.ofString }

/-- The file, found under a path. -/
def foundAs (path : String) : FileComments where
  path := .ofString path
  fileType := .ruby
  size := 4
  comments := [{ text := "# b\n", startLine := 1, endLine := 1, column := 0 }]

theorem totals_agree_iff_overlapping : ∃ result totals,
    runArriving .asFound oneFile (searchFrom ["b.rb", ".", "gone"]) = .ok result ∧
      Totals.read? (document result) = some totals ∧ totals.Agree := by
  have found : directoryOutcomes oneFile.volume (searchFrom ["b.rb", ".", "gone"]) =
      .ok [.ok (foundAs "b.rb"), .ok (foundAs "./b.rb"),
        .error (walkLabel, .walk (.unreachable (.ofString "gone") .notFound))] := by
    decide +kernel
  obtain ⟨result, totals, ran, read, agree, -⟩ := totals_agree_iff .asFound found
  exact ⟨result, totals, ran, read, agree.mpr ⟨by decide +kernel, by decide +kernel⟩⟩

/-- **A root that is given twice**: the file is counted twice and has one entry. -/
theorem totals_differ_twice : ∃ result totals,
    run oneFile (searchFrom ["b.rb", "b.rb"]) = .ok result ∧
      Totals.read? (document result) = some totals ∧
      totals = { comments := 2, filesOfType := [2], entryComments := [1], readable := 1 } ∧
      ¬ totals.Agree := by
  have found : directoryOutcomes oneFile.volume (searchFrom ["b.rb", "b.rb"]) =
      .ok [.ok (foundAs "b.rb"), .ok (foundAs "b.rb")] := by
    decide +kernel
  have sorted : [foundAs "b.rb", foundAs "b.rb"].mergeSort
      (fun first second => first.path.le second.path) = [foundAs "b.rb", foundAs "b.rb"] :=
    List.mergeSort_of_pairwise (by decide +kernel)
  have collected : RunResult.ofOutcomes [.ok (foundAs "b.rb"), .ok (foundAs "b.rb")] =
      { files := [foundAs "b.rb", foundAs "b.rb"] } := by
    unfold RunResult.ofOutcomes RunResult.sort
    rw [RunResult.mk.injEq]
    exact ⟨sorted, List.mergeSort_nil, rfl, rfl⟩
  have ran := runArriving_tolerant .asFound found
  rw [show Arrival.asFound.order = id from rfl, id, collected] at ran
  refine ⟨_, _, ran, (read?_document _).trans (congrArg some ?_), rfl, ?_⟩
  · decide +kernel
  · rintro ⟨same, -⟩
    cases same

end Report

end Marginalia
