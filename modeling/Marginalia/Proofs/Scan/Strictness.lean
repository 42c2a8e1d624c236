/-
**Strict and tolerant runs agree.**

A tolerant run collects the faults that it meets; a strict one ends with the first.  As directories
are searched by several threads, it is open in which order the outcomes come in (`Arrival`), and so
which fault is the first.  Nothing is assumed of the host but that it answers both runs alike: files,
directories, blobs, trees and parents may all be unreadable, and the search may fail at its end.

`Together` says what the two do with the same answers in the same order, and `Agrees` what they have
to do with each other in any orders.  A revision is read in one order, so there the first is shown
(`Checkout.run_together`): a fault of the list of files ends both runs, a file that cannot be read
ends the strict one, and a fault of the search for last changes, which comes behind them, ends the
tolerant one too.  Outcomes of directories are collected in two orders (`agrees_collect`), and what
ends the search at its end ends both (`Agrees.andThen`).
-/

import Marginalia.Proofs.Path.Order
import Marginalia.Scan.World

namespace Marginalia.Scan

variable {Commit Tree : Type}

/-! ### Orders of arrival -/

/-- An order in which the outcomes of a search can come in: all of them, none twice. -/
structure Arrival where
  order : List Outcome → List Outcome
  perm : ∀ outcomes, (order outcomes).Perm outcomes

/-- The order in which the files are found. -/
def Arrival.asFound : Arrival where
  order := id
  perm := List.Perm.refl

/-- The result of a run whose outcomes come in in some order.  The files of a revision are read one
after the other, in the order of the repository. -/
def Host.runArriving (arrival : Arrival) (host : Host Commit Tree) (config : Config) :
    Except Fault RunResult :=
  match config.git with
  | some target => host.runRevision config target
  | none => do
    let result ← collect config.strict (arrival.order (host.outcomes config))
    (host.search config.walk).ended
    return result

theorem Host.run_eq_runArriving (host : Host Commit Tree) (config : Config) :
    host.run config = host.runArriving .asFound config := rfl

/-- The result of a run over a world whose outcomes come in in some order. -/
def runArriving (arrival : Arrival) (world : World) (config : Config) : Except Fault RunResult :=
  world.host.runArriving arrival config

theorem run_eq_runArriving (world : World) (config : Config) :
    run world config = runArriving .asFound world config := rfl

/-- The outcomes of searching directories of a volume, unless the search is refused. -/
def directoryOutcomes (volume : Disk.Volume) (config : Config) : Except Fault (List Outcome) :=
  match walk volume config.walk with
  | .ok found => .ok (found.filterMap (foundOutcome volume.read config.filter))
  | .error cause => .error (.walk cause)

/-- A run over the directories of a volume collects their outcomes. -/
theorem runArriving_directories (arrival : Arrival) (world : World) (config : Config) :
    runArriving arrival world { config with git := none } =
      (do collect config.strict (arrival.order (← directoryOutcomes world.volume config))) := by
  unfold directoryOutcomes
  show (do
    let result ← collect config.strict (arrival.order
      ((world.search config.walk).found.filterMap (foundOutcome world.volume.read config.filter)))
    (world.search config.walk).ended
    return result) = _
  unfold World.search
  cases walk world.volume config.walk with
  | ok found => exact bind_pure _
  | error cause =>
      -- A search that is refused has found nothing.
      have nothing : arrival.order [] = [] := List.Perm.eq_nil (arrival.perm [])
      simp only [List.filterMap_nil, nothing]
      cases config.strict <;> rfl

/-! ### What it is to agree -/

/-- **A tolerant and a strict result agree.** -/
structure Agrees (tolerant strict : Except Fault RunResult) : Prop where
  /-- The strict run succeeds if and only if the tolerant one meets no fault. -/
  succeeds_iff : (∃ result, strict = .ok result) ↔ ∃ result, tolerant = .ok result ∧
    result.errors = []
  /-- Then both have the same files, path by path, and are about the same revision. -/
  same : ∀ {all result}, tolerant = .ok all → strict = .ok result →
    result.errors = [] ∧ result.files.Perm all.files ∧
      result.files.map (·.path.components) = all.files.map (·.path.components) ∧
      result.revision = all.revision
  /-- Otherwise the strict run ends with one of the faults that the tolerant one has collected. -/
  fault : ∀ {all}, tolerant = .ok all → all.errors ≠ [] →
    ∃ path cause, strict = .error cause ∧ (path, cause) ∈ all.errors
  /-- What ends the tolerant run ends the strict one. -/
  fatal : ∀ {cause}, tolerant = .error cause → ∃ other, strict = .error other

/-- **What a tolerant and a strict run do with the same answers in the same order.** -/
inductive Together : Except Fault RunResult → Except Fault RunResult → Prop where
  /-- Both end with a fault. -/
  | failed (one other : Fault) : Together (.error one) (.error other)
  /-- No fault is met, and the results are the same. -/
  | clean {result : RunResult} (none : result.errors = []) : Together (.ok result) (.ok result)
  /-- The strict one ends with a fault that the tolerant one collects. -/
  | caught {result : RunResult} {path : Path} {cause : Fault}
      (collected : (path, cause) ∈ result.errors) : Together (.ok result) (.error cause)

namespace Together

variable {tolerant strict : Except Fault RunResult}

theorem agrees (together : Together tolerant strict) : Agrees tolerant strict := by
  cases together with
  | failed one other => exact ⟨by simp, by simp, by simp, fun _ => ⟨other, rfl⟩⟩
  | clean none =>
      refine ⟨by simp [none], ?_, ?_, by simp⟩
      · rintro _ _ ⟨⟩ ⟨⟩
        exact ⟨none, List.Perm.refl _, rfl, rfl⟩
      · rintro _ ⟨⟩ some
        exact absurd none some
  | caught collected =>
      refine ⟨by simp [List.ne_nil_of_mem collected], by simp, ?_, by simp⟩
      rintro _ ⟨⟩ _
      exact ⟨_, _, rfl, collected⟩

/-- If the tolerant run meets no fault, the strict one has the same result. -/
theorem strict_eq (together : Together tolerant strict) {result : RunResult}
    (succeeds : tolerant = .ok result) (none : result.errors = []) : strict = .ok result := by
  cases together with
  | failed => cases succeeds
  | clean => exact succeeds
  | caught collected =>
      cases succeeds
      exact absurd none (List.ne_nil_of_mem collected)

/-- A step that follows both, and that can only fail, keeps them together. -/
theorem andThen (together : Together tolerant strict) (ended : Except Fault Unit) :
    Together (do let result ← tolerant; ended; return result)
      (do let result ← strict; ended; return result) := by
  cases ended with
  | ok => cases together with
    | failed one other => exact .failed one other
    | clean none => exact .clean none
    | caught collected => exact .caught collected
  | error late => cases together with
    | failed one other => exact .failed one other
    | clean none => exact .failed late late
    | caught collected => exact .failed late _

end Together

/-- A step that follows both, and that can only fail, keeps them in agreement. -/
theorem Agrees.andThen {tolerant strict : Except Fault RunResult} (agrees : Agrees tolerant strict)
    (ended : Except Fault Unit) :
    Agrees (do let result ← tolerant; ended; return result)
      (do let result ← strict; ended; return result) := by
  cases ended with
  | ok =>
      have same : ∀ result : Except Fault RunResult,
          (do let found ← result; Except.ok (); return found) = result := by
        intro result
        cases result <;> rfl
      rw [same, same]
      exact agrees
  | error late =>
      -- Behind a fault both runs have failed, with it or with an earlier one.
      have fails : ∀ result : Except Fault RunResult,
          ∃ cause, (do let found ← result; Except.error late; return found) =
            (Except.error cause : Except Fault RunResult) := by
        intro result
        cases result with
        | error cause => exact ⟨cause, rfl⟩
        | ok => exact ⟨late, rfl⟩
      obtain ⟨one, equalOne⟩ := fails tolerant
      obtain ⟨other, equalOther⟩ := fails strict
      rw [equalOne, equalOther]
      exact (Together.failed one other).agrees

/-! ### Collecting outcomes -/

namespace RunResult

/-- Ordering a result leaves its files and its faults. -/
theorem perm_sort (result : RunResult) :
    result.sort.files.Perm result.files ∧ result.sort.errors.Perm result.errors :=
  ⟨List.mergeSort_perm _ _, List.mergeSort_perm _ _⟩

/-- The files of a result are those of the outcomes, and so are its faults. -/
theorem perm_ofOutcomes (outcomes : List Outcome) :
    (ofOutcomes outcomes).files.Perm (filesOf outcomes) ∧
      (ofOutcomes outcomes).errors.Perm (errorsOf outcomes) :=
  perm_sort _

theorem errors_ofOutcomes_eq_nil {outcomes : List Outcome} :
    (ofOutcomes outcomes).errors = [] ↔ errorsOf outcomes = [] := by
  constructor
  · intro clean
    exact List.Perm.nil_eq (clean ▸ (perm_ofOutcomes outcomes).2) |>.symm
  · intro clean
    exact List.Perm.eq_nil (clean ▸ (perm_ofOutcomes outcomes).2)

/-- Files in the order of their paths have the same paths if they are the same files. -/
theorem components_eq_of_perm {first second : List FileComments} (perm : first.Perm second)
    (firstSorted : first.Pairwise fun one other => one.path.le other.path = true)
    (secondSorted : second.Pairwise fun one other => one.path.le other.path = true) :
    first.map (·.path.components) = second.map (·.path.components) := by
  have byKey : ∀ {files : List FileComments},
      files.Pairwise (fun one other => one.path.le other.path = true) →
      (files.map (·.path.components)).Pairwise fun one other =>
        one.map Component.key ≤ other.map Component.key := by
    intro files sorted
    rw [List.pairwise_map]
    exact sorted.imp fun before => (Path.le_iff _ _).mp before
  refine List.Perm.eq_of_pairwise ?_ (byKey firstSorted) (byKey secondSorted) (perm.map _)
  intro one other _ _ before after
  exact List.map_injective_iff.mpr Component.key_injective (before.antisymm after)

/-- **Collecting the same outcomes, in two orders, tolerantly and strictly.** -/
theorem agrees_ofOutcomes {first second : List Outcome} (perm : second.Perm first) :
    Agrees (.ok (ofOutcomes first)) (ofOutcomes? second) := by
  have errors : (errorsOf second).Perm (errorsOf first) := perm.filterMap _
  have files : (ofOutcomes second).files.Perm (ofOutcomes first).files :=
    ((perm_ofOutcomes second).1.trans (perm.filterMap _)).trans (perm_ofOutcomes first).1.symm
  unfold ofOutcomes?
  cases met : errorsOf second with
  | nil =>
      have clean : errorsOf first = [] := (met ▸ errors).nil_eq.symm
      have noFault : (ofOutcomes first).errors = [] := errors_ofOutcomes_eq_nil.mpr clean
      refine ⟨by simp [noFault], ?_, ?_, by simp⟩
      · rintro _ _ ⟨⟩ ⟨⟩
        refine ⟨errors_ofOutcomes_eq_nil.mpr met, files, ?_, rfl⟩
        exact components_eq_of_perm files (Path.pairwise_mergeSort _ _)
          (Path.pairwise_mergeSort _ _)
      · rintro _ ⟨⟩ some
        exact absurd noFault some
  | cons fault rest =>
      have member : fault ∈ (ofOutcomes first).errors := by
        rw [(perm_ofOutcomes first).2.mem_iff, ← errors.mem_iff, met]
        exact List.mem_cons_self
      exact (Together.caught member).agrees

end RunResult

theorem agrees_collect {first second : List Outcome} (perm : second.Perm first) :
    Agrees (collect false first) (collect true second) :=
  RunResult.agrees_ofOutcomes perm

/-- Without a fault there is no difference between the two ways to collect. -/
theorem collect_clean {outcomes : List Outcome} (clean : RunResult.errorsOf outcomes = [])
    (strict : Bool) : collect strict outcomes = .ok (.ofOutcomes outcomes) := by
  cases strict with
  | false => rfl
  | true =>
      show RunResult.ofOutcomes? outcomes = _
      rw [RunResult.ofOutcomes?, clean]

theorem collect_together (outcomes : List Outcome) :
    Together (collect false outcomes) (collect true outcomes) := by
  show Together (.ok (.ofOutcomes outcomes)) (RunResult.ofOutcomes? outcomes)
  unfold RunResult.ofOutcomes?
  cases met : RunResult.errorsOf outcomes with
  | nil => exact .clean (RunResult.errors_ofOutcomes_eq_nil.mpr met)
  | cons fault rest =>
      have member : fault ∈ (RunResult.ofOutcomes outcomes).errors := by
        rw [(RunResult.perm_ofOutcomes outcomes).2.mem_iff, met]
        exact List.mem_cons_self
      exact .caught member

/-! ### Steps that can fail -/

section Steps

variable {ε ε' α β : Type} {step : Except ε α}

/-- If two steps succeed, the first has an answer with which the second succeeds. -/
theorem exists_of_bind {next : α → Except ε β} {result : β} (done : step >>= next = .ok result) :
    ∃ answer, step = .ok answer ∧ next answer = .ok result := by
  cases step with
  | error cause => cases done
  | ok answer => exact ⟨answer, rfl, done⟩

theorem exists_of_map {change : α → β} {result : β} (done : change <$> step = .ok result) :
    ∃ answer, step = .ok answer ∧ change answer = result := by
  cases step with
  | error cause => cases done
  | ok answer => exact ⟨answer, rfl, Except.ok.inj done⟩

theorem ok_of_mapError {wrap : ε → ε'} {answer : α} (done : step.mapError wrap = .ok answer) :
    step = .ok answer := by
  cases step with
  | error cause => cases done
  | ok answer => exact congrArg _ (Except.ok.inj done)

end Steps

/-! ### Reading a revision -/

section Blobs

variable (reader : Git.Reader Commit Tree) (filter : FilterOptions)

/-- A file that is to be read, if it can be and its size is within the bounds. -/
def blob? (file : Git.TreeEntry × FileType) : Option Blob :=
  match readBlob reader filter file.1 with
  | .ok contents => contents.map fun contents =>
    { entry := file.1, fileType := file.2, contents }
  | .error _ => none

/-- The fault of a file that is to be read and cannot be. -/
def blobFault? (file : Git.TreeEntry × FileType) : Option (Path × Fault) :=
  match readBlob reader filter file.1 with
  | .ok _ => none
  | .error cause => some (file.1.path, .git cause)

/-- **A tolerant run reads all files that can be read.** -/
theorem readBlobs_tolerant (files : List (Git.TreeEntry × FileType)) :
    readBlobs reader filter false files =
      .ok (files.filterMap (blob? reader filter), files.filterMap (blobFault? reader filter)) := by
  induction files with
  | nil => rfl
  | cons file rest ih =>
      obtain ⟨entry, fileType⟩ := file
      rw [readBlobs, ih, List.filterMap_cons, List.filterMap_cons, blob?, blobFault?]
      cases readBlob reader filter entry with
      | error cause => rfl
      | ok read => cases read <;> rfl

/-- **A strict run reads the same files**, or ends with the first fault. -/
theorem readBlobs_strict (files : List (Git.TreeEntry × FileType)) :
    readBlobs reader filter true files =
      match files.filterMap (blobFault? reader filter) with
      | [] => .ok (files.filterMap (blob? reader filter), [])
      | (_, cause) :: _ => .error cause := by
  induction files with
  | nil => rfl
  | cons file rest ih =>
      obtain ⟨entry, fileType⟩ := file
      rw [readBlobs, ih, List.filterMap_cons, List.filterMap_cons, blob?, blobFault?]
      cases readBlob reader filter entry with
      | error cause => rfl
      | ok read =>
          cases read with
          | none => rfl
          | some contents =>
              cases rest.filterMap (blobFault? reader filter) <;> rfl

/-- Whatever run reads files reads those that can be read. -/
theorem eq_of_readBlobs {strict : Bool} {files : List (Git.TreeEntry × FileType)}
    {blobs : List Blob} {errors : List (Path × Fault)}
    (read : readBlobs reader filter strict files = .ok (blobs, errors)) :
    blobs = files.filterMap (blob? reader filter) ∧
      errors = files.filterMap (blobFault? reader filter) := by
  cases strict with
  | false =>
      rw [readBlobs_tolerant] at read
      cases read
      exact ⟨rfl, rfl⟩
  | true =>
      rw [readBlobs_strict] at read
      split at read
      · rename_i none
        cases read
        exact ⟨rfl, none.symm⟩
      · cases read

end Blobs

/-- **How a revision that is read to its end comes about.** -/
theorem Checkout.exists_of_run {checkout : Checkout Commit Tree} {config : Config}
    {target : GitTarget} {result : RunResult} (ran : checkout.run config target = .ok result) :
    ∃ files modified, rubyBlobs checkout.reader config.filter checkout.commit = .ok files ∧
      checkout.modified (files.filterMap (blob? checkout.reader config.filter)) = .ok modified ∧
      result.files.Perm ((files.filterMap (blob? checkout.reader config.filter)).map
        (·.comments modified)) ∧
      result.errors.Perm (files.filterMap (blobFault? checkout.reader config.filter)) := by
  unfold Checkout.run at ran
  obtain ⟨files, listed, ran⟩ := exists_of_bind ran
  obtain ⟨⟨blobs, errors⟩, read, ran⟩ := exists_of_bind ran
  obtain ⟨modified, found, ran⟩ := exists_of_bind ran
  obtain ⟨rfl, rfl⟩ := eq_of_readBlobs _ _ read
  cases ran
  exact ⟨files, modified, ok_of_mapError listed, ok_of_mapError found, RunResult.perm_sort _⟩

/-- **Reading a revision, tolerantly and strictly.** -/
theorem Checkout.run_together (checkout : Checkout Commit Tree) (config : Config)
    (target : GitTarget) :
    Together (checkout.run { config with strict := false } target)
      (checkout.run { config with strict := true } target) := by
  unfold Checkout.run
  cases rubyBlobs checkout.reader config.filter checkout.commit with
  | error cause => exact .failed (.git cause) (.git cause)
  | ok entries =>
      simp only [Except.mapError, bind, Except.bind, readBlobs_tolerant, readBlobs_strict]
      cases entries.filterMap (blobFault? checkout.reader config.filter) with
      | nil =>
          -- The same files have been read, so the search for last changes is the same.
          dsimp only
          cases checkout.modified (entries.filterMap (blob? checkout.reader config.filter)) with
          | error cause => exact .failed (.git cause) (.git cause)
          | ok modified => exact .clean (RunResult.perm_sort _).2.eq_nil
      | cons error rest =>
          cases checkout.modified (entries.filterMap (blob? checkout.reader config.filter)) with
          | error cause => exact .failed (.git cause) error.2
          | ok modified =>
              exact .caught ((RunResult.perm_sort _).2.mem_iff.mpr List.mem_cons_self)

theorem Host.runRevision_together (host : Host Commit Tree) (config : Config)
    (target : GitTarget) :
    Together (host.runRevision { config with strict := false } target)
      (host.runRevision { config with strict := true } target) := by
  unfold Host.runRevision
  cases host.checkout target with
  | error cause => exact .failed (.git cause) (.git cause)
  | ok checkout => exact checkout.run_together config target

/-! ### Runs -/

/-- **Strict and tolerant runs agree**, in directories and in revisions, whatever the host answers
and in whatever orders the outcomes come in for either.  If they come in in the same order and there
is no fault among them, the results are equal. -/
theorem strict_agrees_with_tolerant (host : Host Commit Tree) (config : Config)
    (first second : Arrival) :
    Agrees (host.runArriving first { config with strict := false })
        (host.runArriving second { config with strict := true }) ∧
      ∀ result, host.runArriving first { config with strict := false } = .ok result →
        result.errors = [] →
        host.runArriving first { config with strict := true } = .ok result := by
  unfold Host.runArriving
  cases config.git with
  | some target =>
      have together := host.runRevision_together config target
      exact ⟨together.agrees, fun _ => together.strict_eq⟩
  | none =>
      -- What is found, and how the search ends, does not depend on whether the run is strict.
      let outcomes := host.outcomes config
      let ended := (host.search config.walk).ended
      have perm : (second.order outcomes).Perm (first.order outcomes) :=
        (second.perm outcomes).trans (first.perm outcomes).symm
      have together := (collect_together (first.order outcomes)).andThen ended
      exact ⟨(agrees_collect perm).andThen ended, fun _ => together.strict_eq⟩

/-- A commit with two files, of which one cannot be read, and whose first parent is missing. -/
def orphanCheckout : Checkout Unit Unit where
  path := .ofString "/store"
  commit := ()
  reader :=
    { id := fun _ => "head"
      time := fun _ => ⟨0⟩
      tree := fun _ => .ok ()
      firstParent := fun _ => .error (.missingObject "parent")
      firstParents := fun _ => .ok [.error (.missingObject "parent")]
      entries := fun _ => .ok [{ path := .ofString "a.rb", id := "a" },
        { path := .ofString "b.rb", id := "b" }]
      diff := fun _ _ => .ok []
      contents := fun id => if id = "a" then .ok [] else .error (.missingObject id) }

/-- The tolerant run collects the one fault and ends with the other, which the strict run does not
come to. -/
example : orphanCheckout.run {} { gitDir := .ofString "store" } =
      .error (.git (.missingObject "parent")) ∧
    orphanCheckout.run { strict := true } { gitDir := .ofString "store" } =
      .error (.git (.missingObject "b")) := by
  decide +kernel

end Marginalia.Scan
