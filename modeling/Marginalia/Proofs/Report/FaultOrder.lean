/-
**The order of faults depends on their arrival.**

A tolerant run puts the faults that it meets in the order of their paths.  Faults at the same place
keep the order in which they come in (`errors_filter_isAt`), and that is open, because several threads
search and read.  All faults of the search are reported under one path, so as soon as there are two of
them with different messages, what is reported depends on which comes in first
(`walk_faults_follow_arrival`), and so does the text of their common entry in the document.

* `errorPairs_eq_iff`: two arrivals leave the same paths and messages if and only if, place by place,
  the faults come in in the same order.
* `errorPairs_independent_iff`: all arrivals leave the same if and only if faults at the same place
  are told alike.
* `errorTextAt_document`: the entry of a path tells the messages in the order of the faults, so it
  depends on nothing else.
-/

import Marginalia.Proofs.Report.Totals

namespace Marginalia

namespace Scan

/-- What is told of a fault: its path and its message. -/
def errorPair (error : Path × Fault) : Path × String :=
  (error.1, error.2.message)

/-- What is told of the faults at a place, in the order in which they come in. -/
def pairsAt (place : Path) (outcomes : List Outcome) : List (Path × String) :=
  ((RunResult.errorsOf outcomes).filter (place.isAt ·.1)).map errorPair

namespace RunResult

theorem mem_errorsOf {outcomes : List Outcome} {error : Path × Fault} :
    error ∈ errorsOf outcomes ↔ .error error ∈ outcomes := by
  unfold errorsOf
  rw [List.mem_filterMap]
  constructor
  · rintro ⟨outcome, member, same⟩
    cases outcome with
    | ok file => cases same
    | error other =>
        cases same
        exact member
  · intro member
    exact ⟨_, member, rfl⟩

/-- What is told of all faults of a run, in the order of their paths. -/
def errorPairs (result : RunResult) : List (Path × String) :=
  result.errors.map errorPair

theorem pairwise_errorPairs (outcomes : List Outcome) :
    (ofOutcomes outcomes).errorPairs.Pairwise fun one next => one.1.le next.1 = true :=
  List.pairwise_map.mpr (Path.pairwise_mergeSort Prod.fst (errorsOf outcomes))

/-- **Faults at the same place stand in the order in which they came in.** -/
theorem errors_filter_isAt (outcomes : List Outcome) (place : Path) :
    (ofOutcomes outcomes).errors.filter (place.isAt ·.1) =
      (errorsOf outcomes).filter (place.isAt ·.1) :=
  Path.filter_mergeSort (errorsOf outcomes) place

theorem errorPairs_filter_isAt (outcomes : List Outcome) (place : Path) :
    ((ofOutcomes outcomes).errorPairs.filter fun pair => place.isAt pair.1) =
      pairsAt place outcomes := by
  rw [errorPairs, List.filter_map, pairsAt, ← errors_filter_isAt]
  rfl

/-- **Two arrivals leave the same** if and only if the faults at each place come in in the same
order. -/
theorem errorPairs_eq_iff {outcomes arrived : List Outcome} :
    (ofOutcomes arrived).errorPairs = (ofOutcomes outcomes).errorPairs ↔
      ∀ place, pairsAt place arrived = pairsAt place outcomes := by
  constructor
  · intro same place
    rw [← errorPairs_filter_isAt, same, errorPairs_filter_isAt]
  · intro same
    refine Path.eq_of_filter_eq (pairwise_errorPairs arrived) (pairwise_errorPairs outcomes) ?_
    intro place
    rw [errorPairs_filter_isAt, same, errorPairs_filter_isAt]

/-- Two faults among the outcomes can come in first, in either order. -/
theorem exists_arrivals {outcomes : List Outcome} {one next : Path × Fault} (different : one ≠ next)
    (oneMet : .error one ∈ outcomes) (nextMet : .error next ∈ outcomes) :
    ∃ rest, (.error one :: .error next :: rest : List Outcome).Perm outcomes ∧
      (.error next :: .error one :: rest : List Outcome).Perm outcomes := by
  have left : Except.error next ∈ outcomes.erase (.error one) :=
    (List.mem_erase_of_ne fun same => different (Except.error.inj same).symm).mpr nextMet
  have first := (List.perm_cons_erase oneMet).trans ((List.perm_cons_erase left).cons _)
  exact ⟨_, first.symm, (List.Perm.swap _ _ _).trans first.symm⟩

/-- **All arrivals leave the same** if and only if faults at the same place are told alike. -/
theorem errorPairs_independent_iff (outcomes : List Outcome) :
    (∀ arrived : List Outcome, arrived.Perm outcomes →
        (ofOutcomes arrived).errorPairs = (ofOutcomes outcomes).errorPairs) ↔
      ∀ one next, .error one ∈ outcomes → .error next ∈ outcomes →
        one.1.components = next.1.components → errorPair one = errorPair next := by
  constructor
  · intro independent one next oneMet nextMet same
    by_cases equal : one = next
    · rw [equal]
    · -- Each of the two can come in first, and then it stands first at its place.
      obtain ⟨rest, first, second⟩ := exists_arrivals equal oneMet nextMet
      have both := errorPairs_eq_iff.mp
        ((independent _ first).trans (independent _ second).symm) next.1
      have here : next.1.isAt one.1 = true := Path.isAt_iff.mpr same
      have there : next.1.isAt next.1 = true := Path.isAt_iff.mpr rfl
      have heads := congrArg List.head? both
      simpa [pairsAt, errorsOf, here, there] using heads
  · intro alike arrived perm
    have here := (perm_ofOutcomes outcomes).2
    have there := (perm_ofOutcomes arrived).2.trans (perm.filterMap _)
    refine List.Perm.eq_of_pairwise ?_ (pairwise_errorPairs arrived) (pairwise_errorPairs outcomes)
      ((there.trans here.symm).map errorPair)
    intro pair other pairMember otherMember before after
    obtain ⟨one, oneMember, rfl⟩ := List.mem_map.mp pairMember
    obtain ⟨next, nextMember, rfl⟩ := List.mem_map.mp otherMember
    exact alike one next (mem_errorsOf.mp (there.mem_iff.mp oneMember))
      (mem_errorsOf.mp (here.mem_iff.mp nextMember)) (Path.components_eq_of_le before after)

end RunResult

end Scan

/-! ### The document -/

namespace Report

open Marginalia.Scan
open Marginalia.Json (Members)

/-- The faults that a document tells of under a path as it is shown. -/
def errorTextAt (document : Json) (key : String) : Option String :=
  ((document.get? "Files").bind (·.get? key)).bind errorText?

/-- No file puts in a fault. -/
theorem told_addFile {entries : Members} {key : String} (none : told entries key = [])
    (file : FileComments) : told (addFile entries file) key = [] := by
  have clean : (fileEntry file).get? "Error" = Option.none := get?_named (by decide)
  unfold told addFile at *
  rw [Members.get?_insert]
  split
  · simp [errorText?, clean]
  · exact none

theorem told_files (files : List FileComments) {entries : Members} {key : String}
    (none : told entries key = []) : told (files.foldl addFile entries) key = [] := by
  induction files generalizing entries with
  | nil => exact none
  | cons file rest ih => exact ih (told_addFile none file)

/-- **An entry tells the messages of the faults of its path**, in their order. -/
theorem errorTextAt_document (result : RunResult) (key : String) :
    errorTextAt (document result) key =
      if messagesAt result.errors key = [] then none
      else some ("; ".intercalate (messagesAt result.errors key)) := by
  have clean : told (result.files.foldl addFile []) key = [] := told_files result.files rfl
  have entry : errorTextAt (document result) key =
      (Members.get? (entries result) key).bind errorText? := by
    rw [errorTextAt, get?_document result (by decide)]
    rfl
  rw [entry, entries, get?_foldl_addError]
  split
  · exact Option.toList_eq_nil_iff.mp clean
  · rw [clean]
    rfl

theorem messagesAt_eq (result : RunResult) (key : String) :
    messagesAt result.errors key =
      (result.errorPairs.filter (·.1.display = key)).map Prod.snd := by
  rw [RunResult.errorPairs, List.filter_map, List.map_map]
  rfl

/-- The texts of the entries depend on nothing but what is told of the faults. -/
theorem errorTextAt_congr {result other : RunResult} (same : other.errorPairs = result.errorPairs)
    (key : String) : errorTextAt (document other) key = errorTextAt (document result) key := by
  rw [errorTextAt_document, errorTextAt_document, messagesAt_eq, messagesAt_eq, same]

/-- **What a tolerant run tells of its faults.**  All of them are there, in the order of their paths,
and at each place in the order in which they came in.  Two arrivals leave the same paths and messages
if and only if the faults of each place come in in the same order, and then the entries of the
document tell the same.  So all arrivals leave the same if and only if faults at the same place are
told alike. -/
theorem collect_errors_arrival {outcomes arrived : List Outcome} (perm : arrived.Perm outcomes) :
    ∃ result other, collect false outcomes = .ok result ∧ collect false arrived = .ok other ∧
      other.errors.Perm result.errors ∧
      other.errors.Pairwise (fun one next => one.1.UpTo next.1) ∧
      (∀ place : Path, other.errors.filter (place.isAt ·.1) =
        (RunResult.errorsOf arrived).filter (place.isAt ·.1)) ∧
      (other.errorPairs = result.errorPairs ↔
        ∀ place, pairsAt place arrived = pairsAt place outcomes) ∧
      (other.errorPairs = result.errorPairs →
        ∀ key, errorTextAt (document other) key = errorTextAt (document result) key) ∧
      ((∀ later : List Outcome, later.Perm outcomes →
          ∃ last, collect false later = .ok last ∧ last.errorPairs = result.errorPairs) ↔
        ∀ one next, .error one ∈ outcomes → .error next ∈ outcomes →
          one.1.components = next.1.components → errorPair one = errorPair next) := by
  refine ⟨.ofOutcomes outcomes, .ofOutcomes arrived, rfl, rfl, ?_, ?_, ?_, ?_, ?_, ?_⟩
  · have here := (RunResult.perm_ofOutcomes outcomes).2
    have there := (RunResult.perm_ofOutcomes arrived).2
    exact (there.trans (perm.filterMap _)).trans here.symm
  · exact (Path.pairwise_mergeSort Prod.fst _).imp fun before => (Path.le_iff_upTo _ _).mp before
  · exact RunResult.errors_filter_isAt arrived
  · exact RunResult.errorPairs_eq_iff
  · exact errorTextAt_congr
  · rw [← RunResult.errorPairs_independent_iff]
    constructor
    · intro independent later later_perm
      obtain ⟨last, collected, same⟩ := independent later later_perm
      cases collected
      exact same
    · intro independent later later_perm
      exact ⟨_, rfl, independent later later_perm⟩

/-- The outcome of searching a root that is missing. -/
def missing (root : String) : Outcome :=
  .error (walkLabel, .walk (.unreachable (.ofString root) .notFound))

/-- A root that is missing and given twice, and a file that could not be read. -/
def repeatedFaults : List Outcome :=
  [missing "gone", .error (.ofString "a.rb", .fileRead (.ofString "a.rb") .notFound),
    missing "gone"]

theorem collect_errors_arrival_repeated : ∃ result other,
    collect false repeatedFaults = .ok result ∧ collect false repeatedFaults.reverse = .ok other ∧
      other.errorPairs = result.errorPairs ∧
      errorTextAt (document other) "<walk>" = errorTextAt (document result) "<walk>" := by
  obtain ⟨result, other, here, there, -, -, -, -, texts, independent⟩ :=
    collect_errors_arrival (List.reverse_perm repeatedFaults)
  have alike : ∀ one ∈ RunResult.errorsOf repeatedFaults,
      ∀ next ∈ RunResult.errorsOf repeatedFaults,
        one.1.components = next.1.components → errorPair one = errorPair next := by
    decide +kernel
  have pairs : other.errorPairs = result.errorPairs := by
    obtain ⟨last, collected, same⟩ := independent.mpr
      (fun one next oneMet nextMet => alike one (RunResult.mem_errorsOf.mpr oneMet) next
        (RunResult.mem_errorsOf.mpr nextMet)) _ (List.reverse_perm repeatedFaults)
    cases there.symm.trans collected
    exact same
  exact ⟨result, other, here, there, pairs, texts pairs "<walk>"⟩

/-- The order opposite to that in which the files are found. -/
def reversed : Arrival where
  order := List.reverse
  perm := List.reverse_perm

/-- **Two roots that are missing**: which of them is told first depends on the arrival. -/
theorem walk_faults_follow_arrival : ∃ result other,
    runArriving .asFound oneFile (searchFrom ["one", "two"]) = .ok result ∧
      runArriving reversed oneFile (searchFrom ["one", "two"]) = .ok other ∧
      other.errorPairs ≠ result.errorPairs ∧
      errorTextAt (document result) "<walk>" =
        some ("Walk error: one: No such file or directory (os error 2); "
          ++ "Walk error: two: No such file or directory (os error 2)") ∧
      errorTextAt (document other) "<walk>" =
        some ("Walk error: two: No such file or directory (os error 2); "
          ++ "Walk error: one: No such file or directory (os error 2)") := by
  have found : directoryOutcomes oneFile.volume (searchFrom ["one", "two"]) =
      .ok [missing "one", missing "two"] := by
    decide +kernel
  have ahead : (RunResult.ofOutcomes [missing "one", missing "two"]).errors =
      RunResult.errorsOf [missing "one", missing "two"] :=
    List.mergeSort_of_pairwise (by decide +kernel)
  have back : (RunResult.ofOutcomes [missing "two", missing "one"]).errors =
      RunResult.errorsOf [missing "two", missing "one"] :=
    List.mergeSort_of_pairwise (by decide +kernel)
  have ran (arrival : Arrival) : runArriving arrival oneFile (searchFrom ["one", "two"]) =
      .ok (.ofOutcomes (arrival.order [missing "one", missing "two"])) :=
    @runArriving_tolerant arrival oneFile (searchFrom ["one", "two"]) _ found
  refine ⟨_, _, ran .asFound, ran reversed, ?_, ?_, ?_⟩
  · show (RunResult.ofOutcomes [missing "two", missing "one"]).errors.map errorPair ≠
      (RunResult.ofOutcomes [missing "one", missing "two"]).errors.map errorPair
    rw [ahead, back]
    decide +kernel
  · show errorTextAt (document (.ofOutcomes [missing "one", missing "two"])) "<walk>" = _
    rw [errorTextAt_document, ahead]
    decide +kernel
  · show errorTextAt (document (.ofOutcomes [missing "two", missing "one"])) "<walk>" = _
    rw [errorTextAt_document, back]
    decide +kernel

end Report

end Marginalia
