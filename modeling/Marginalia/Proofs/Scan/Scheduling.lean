/-
**The order of arrival does not matter.**

Several threads search directories and read files, so outcomes come in in any order.  A tolerant run
keeps the files that could be read and puts them in the order of their paths.  Files with the same
path can keep the order in which they came, so the result depends on the arrival only if two of them
differ (`collect_arrival`).
-/

import Marginalia.Proofs.Scan.Strictness

namespace Marginalia.Scan

namespace RunResult

theorem map_ok_filesOf (outcomes : List Outcome) :
    (filesOf outcomes).map Except.ok = outcomes.filter (·.isOk) := by
  induction outcomes with
  | nil => rfl
  | cons outcome rest ih =>
      unfold filesOf at ih ⊢
      cases outcome with
      | error fault => simpa [Except.isOk, Except.toBool] using ih
      | ok file => simpa [Except.isOk, Except.toBool] using ih

theorem mem_filesOf {outcomes : List Outcome} {file : FileComments} :
    file ∈ filesOf outcomes ↔ .ok file ∈ outcomes := by
  rw [← List.mem_map_of_injective (fun _ _ => Except.ok.inj), map_ok_filesOf, List.mem_filter]
  simp [Except.isOk, Except.toBool]

/-- Outcomes that come in in another order leave the same files, if files with the same path are the
same. -/
theorem files_ofOutcomes_eq {outcomes arrived : List Outcome} (perm : arrived.Perm outcomes)
    (unique : ∀ one ∈ filesOf outcomes, ∀ other ∈ filesOf outcomes,
      one.path.components = other.path.components → one = other) :
    (ofOutcomes arrived).files = (ofOutcomes outcomes).files := by
  have here := (perm_ofOutcomes outcomes).1
  have there := (perm_ofOutcomes arrived).1.trans (perm.filterMap _)
  refine List.Perm.eq_of_pairwise ?_ (Path.pairwise_mergeSort FileComments.path _)
    (Path.pairwise_mergeSort FileComments.path _) (there.trans here.symm)
  intro one other oneMember otherMember before after
  exact unique one (there.mem_iff.mp oneMember) other (here.mem_iff.mp otherMember)
    (Path.components_eq_of_le before after)

end RunResult

/-- **The files of a tolerant run do not depend on the order of arrival.**  They are those that could
be read, in the order of their paths, and another order of arrival leaves the same list as long as
files with the same path are the same. -/
theorem collect_arrival {outcomes arrived : List Outcome} (perm : arrived.Perm outcomes) :
    ∃ result other, collect false outcomes = .ok result ∧ collect false arrived = .ok other ∧
      (result.files.map Except.ok).Perm (outcomes.filter (·.isOk)) ∧
      result.files.Pairwise (fun one next => one.path.UpTo next.path) ∧
      ((∀ one next, .ok one ∈ outcomes → .ok next ∈ outcomes →
          one.path.components = next.path.components → one = next) →
        other.files = result.files) := by
  refine ⟨.ofOutcomes outcomes, .ofOutcomes arrived, rfl, rfl, ?_, ?_, ?_⟩
  · rw [← RunResult.map_ok_filesOf]
    exact (RunResult.perm_ofOutcomes outcomes).1.map _
  · exact (Path.pairwise_mergeSort FileComments.path _).imp fun before =>
      (Path.le_iff_upTo _ _).mp before
  · intro unique
    refine RunResult.files_ofOutcomes_eq perm fun one oneMember next nextMember => ?_
    exact unique one next (RunResult.mem_filesOf.mp oneMember) (RunResult.mem_filesOf.mp nextMember)

/-- A file that is found twice, one in a directory, which comes before it by components and after it
by bytes, and one that could not be read. -/
def sampleOutcomes : List Outcome :=
  [.ok { path := .ofString "lib.rb", fileType := .ruby, size := 3 },
    .error (.ofString "gone.rb", .fileRead (.ofString "gone.rb") .notFound),
    .ok { path := .ofString "lib/two.rb", fileType := .ruby, size := 5 },
    .ok { path := .ofString "lib.rb", fileType := .ruby, size := 3 }]

theorem collect_arrival_twice : ∃ result other,
    collect false sampleOutcomes = .ok result ∧
      collect false sampleOutcomes.reverse = .ok other ∧ other.files = result.files := by
  obtain ⟨result, other, here, there, -, -, same⟩ :=
    collect_arrival (List.reverse_perm sampleOutcomes)
  refine ⟨result, other, here, there, same ?_⟩
  have unique : ∀ one ∈ RunResult.filesOf sampleOutcomes,
      ∀ next ∈ RunResult.filesOf sampleOutcomes,
        one.path.components = next.path.components → one = next := by
    decide
  intro one next oneMember nextMember
  exact unique one (RunResult.mem_filesOf.mpr oneMember) next (RunResult.mem_filesOf.mpr nextMember)

end Marginalia.Scan
