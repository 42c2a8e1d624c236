/-
**Directories without ignore files.**

All ignore files have names that start with a dot, and so have repositories.  A directory without
such names has a layer without rules (`blank_read`), and a layer without rules takes no part in what
the layers together say (`layersVerdict_append`).
-/

import Marginalia.Ignore.Layer
import Marginalia.Proofs.Disk.PlainTree

namespace Marginalia.Ignore

open Marginalia.Text Marginalia.Disk

/-! ### Layers without rules -/

/-- **A layer without rules**, in which no repository starts. -/
structure Layer.Blank (layer : Layer) : Prop where
  plain : layer.plain.rules = []
  git : layer.git.rules = []
  exclusions : layer.exclusions.rules = []
  noRepository : layer.isRepository = false

theorem RuleSet.verdict_of_nil {set : RuleSet} (noRules : set.rules = []) (path : Bytes)
    (isDirectory : Bool) : set.verdict path isDirectory = .silent := by
  simp [verdict, noRules]

theorem Verdict.firstOf_map_append {α : Type} {verdict : α → Verdict} {front : List α}
    (silent : ∀ item ∈ front, verdict item = .silent) (back : List α) :
    firstOf ((front ++ back).map verdict) = firstOf (back.map verdict) := by
  induction front with
  | nil => rfl
  | cons first rest ih =>
      have later := ih fun item member => silent item (List.mem_cons_of_mem first member)
      rw [List.cons_append, List.map_cons, firstOf, silent first List.mem_cons_self, later]
      rfl

theorem upToRepository_append {front : List (Layer × Bytes)}
    (blank : ∀ layer ∈ front, layer.1.Blank) (back : List (Layer × Bytes)) :
    upToRepository (front ++ back) = front ++ upToRepository back := by
  induction front with
  | nil => rfl
  | cons first rest ih =>
      have later := ih fun layer member => blank layer (List.mem_cons_of_mem first member)
      rw [List.cons_append, upToRepository, (blank first List.mem_cons_self).noRepository, later]
      rfl

/-- **Layers without rules in front change nothing.** -/
theorem layersVerdict_append {front : List (Layer × Bytes)}
    (blank : ∀ layer ∈ front, layer.1.Blank) (back : List (Layer × Bytes)) (isDirectory : Bool) :
    layersVerdict (front ++ back) isDirectory = layersVerdict back isDirectory := by
  have noRepository : front.any (·.1.isRepository) = false := by
    rw [List.any_eq_false]
    intro layer member
    simp [(blank layer member).noRepository]
  have silent : ∀ (rules : Layer → RuleSet), (∀ layer, Layer.Blank layer → (rules layer).rules = []) →
      ∀ layer ∈ front, (rules layer.1).verdict layer.2 isDirectory = .silent :=
    fun rules none layer member => RuleSet.verdict_of_nil (none _ (blank layer member)) _ _
  have plain := silent Layer.plain fun _ blank => blank.plain
  have git := silent Layer.git fun _ blank => blank.git
  have exclusions := silent Layer.exclusions fun _ blank => blank.exclusions
  unfold layersVerdict
  simp only [List.any_append, noRepository, Bool.false_or, upToRepository_append blank]
  by_cases within : back.any (·.1.isRepository) = true
  · simp only [within, if_true, Verdict.firstOf_map_append plain, Verdict.firstOf_map_append git,
      Verdict.firstOf_map_append exclusions]
  · simp only [within, if_false, Bool.false_eq_true, Verdict.firstOf_map_append plain]

/-! ### Directories without hidden names -/

/-- Whether a path starts with a hidden name, seen from a directory, and can be followed as far as
it goes. -/
def startsHidden (path : Path) : Bool :=
  match stepsOf path with
  | .into name :: _ =>
    name.head? == some dot && decide (name.length ≤ longestName) && !path.isAbsolute
      && (Volume.pathFault? path).isNone
  | _ => false

variable {volume : Volume} {here : Location} {entries : List (Bytes × Node)}

theorem resolveFrom_hidden (found : volume.top.find? here = some (.directory entries))
    (visible : ∀ entry ∈ entries, entry.1.head? ≠ some dot) {path : Path}
    (hidden : startsHidden path = true) :
    volume.resolveFrom true here path = .error .notFound := by
  unfold startsHidden at hidden
  split at hidden
  next name rest steps =>
    simp only [Bool.and_eq_true, beq_iff_eq, decide_eq_true_eq, Bool.not_eq_true',
      Option.isNone_iff_eq_none] at hidden
    obtain ⟨⟨⟨isHidden, short⟩, relative⟩, sound⟩ := hidden
    have absent : entries.lookup name = none := by
      cases present : entries.lookup name with
      | none => rfl
      | some node => exact absurd isHidden (visible _ (mem_of_lookup present))
    exact Volume.resolveFrom_absent found sound relative steps short absent
  next => cases hidden

/-- **A directory without hidden names has no ignore files.** -/
theorem blank_read (found : volume.top.find? here = some (.directory entries))
    (visible : ∀ entry ∈ entries, entry.1.head? ≠ some dot) (gitIgnore : Bool) (directory : Path) :
    (Layer.read volume gitIgnore directory here).Blank := by
  have nowhere : ∀ {path : Path}, startsHidden path = true →
      volume.resolveFrom true here path = .error .notFound :=
    fun hidden => resolveFrom_hidden found visible hidden
  have noGit : volume.nodeFrom here (.ofString ".git") = .error .notFound :=
    Volume.nodeFrom_absent (nowhere (by decide))
  have noJj : volume.nodeFrom here (.ofString ".jj") = .error .notFound :=
    Volume.nodeFrom_absent (nowhere (by decide))
  have noIgnore : volume.readFrom here (.ofString ".ignore") = .error .notFound :=
    Volume.readFrom_absent (nowhere (by decide))
  have noGitIgnore : volume.readFrom here (.ofString ".gitignore") = .error .notFound :=
    Volume.readFrom_absent (nowhere (by decide))
  have noExclude : volume.readFrom here ((Path.ofString ".git").join
      (Path.ofString "info/exclude").bytes) = .error .notFound :=
    Volume.readFrom_absent (nowhere (by decide))
  refine ⟨?_, ?_, ?_, ?_⟩
  · simp [Layer.read, noIgnore, rulesOf]
  · cases gitIgnore <;> simp [Layer.read, noGitIgnore, rulesOf]
  · simp [Layer.read, noGit, exclusionsOf, noExclude, rulesOf]
  · simp [Layer.read, noGit, noJj, Except.toBool]

end Marginalia.Ignore
