/-
**The order of paths.**

Paths are compared by keys, and the comparison of keys is the lexicographic order of lists
(`lexLe_iff_le`).  So it is transitive and total, and what is put in order by it is sorted
(`pairwise_mergeSort`).  Two paths come before each other only if they have the same components
(`components_eq_of_le`).  Things whose paths have the same components keep their order when they are
sorted (`filter_mergeSort`), and nothing but that order is left open (`eq_of_filter_eq`).

In words, paths are ordered by their components from the left (`Path.le_iff_upTo`), and components by
`Component.Before`.
-/

import Marginalia.Path
import Mathlib.Data.List.Lex
import Mathlib.Order.Lattice

namespace Marginalia

/-- Comparing lists by their first difference is the lexicographic order. -/
theorem lexLe_iff_le {α : Type} [LinearOrder α] {le : α → α → Bool}
    (same : ∀ first second, le first second = true ↔ first ≤ second) (first second : List α) :
    lexLe le first second = true ↔ first ≤ second := by
  induction first generalizing second with
  | nil =>
      cases second with
      | nil => simp [lexLe]
      | cons other others =>
          have before : [] < other :: others := List.nil_lt_cons other others
          simpa [lexLe] using le_of_lt before
  | cons one rest ih =>
      cases second with
      | nil => simp [lexLe]
      | cons other others =>
          have split : one :: rest < other :: others ↔ one < other ∨ one = other ∧ rest < others :=
            List.cons_lt_cons_iff
          rw [lexLe, le_iff_lt_or_eq]
          by_cases equal : one = other
          · rw [if_pos equal, ih, le_iff_lt_or_eq]
            simp [equal]
          · rw [if_neg equal, same, le_iff_lt_or_eq]
            simpa [equal] using split.symm

theorem Component.key_injective : Function.Injective Component.key := by
  have sameNames : ∀ {one other : Text.Bytes}, one.map UInt8.toNat = other.map UInt8.toNat →
      one = other := fun equal =>
    List.map_injective_iff.mpr (fun _ _ => UInt8.toNat_inj.mp) equal
  intro first second same
  cases first with
  | normal name =>
      cases second with
      | normal other => exact congrArg normal (sameNames (List.cons.inj same).2)
      | _ => simp [key] at same
  | _ => cases second <;> simp_all [key]

namespace Path

theorem le_iff (first second : Path) : first.le second = true ↔ first.key ≤ second.key := by
  have numbers : ∀ one other : Nat, Nat.ble one other = true ↔ one ≤ other :=
    fun _ _ => by rw [Nat.ble_eq]
  have names : ∀ one other : List Nat, lexLe Nat.ble one other = true ↔ one ≤ other :=
    lexLe_iff_le numbers
  unfold Path.le
  -- Both sides decide equality of names, each in its own way.
  convert lexLe_iff_le names first.key second.key

theorem le_trans {first second third : Path} (before : first.le second = true)
    (after : second.le third = true) : first.le third = true := by
  rw [le_iff] at before after ⊢
  exact before.trans after

theorem le_total (first second : Path) : (first.le second || second.le first) = true := by
  rw [Bool.or_eq_true, le_iff, le_iff]
  exact LinearOrder.le_total first.key second.key

theorem key_eq_iff {first second : Path} :
    first.key = second.key ↔ first.components = second.components :=
  (List.map_injective_iff.mpr Component.key_injective).eq_iff

/-- **Paths that come before each other have the same components.** -/
theorem components_eq_of_le {first second : Path} (before : first.le second = true)
    (after : second.le first = true) : first.components = second.components := by
  rw [le_iff] at before after
  exact key_eq_iff.mp (before.antisymm after)

/-- **Putting things in the order of their paths sorts them.** -/
theorem pairwise_mergeSort {α : Type} (path : α → Path) (items : List α) :
    (items.mergeSort fun first second => (path first).le (path second)).Pairwise
      fun first second => (path first).le (path second) = true := by
  refine List.pairwise_mergeSort ?_ ?_ items
  · intro first second third before after
    exact le_trans before after
  · intro first second
    exact le_total (path first) (path second)

/-- Whether a path has the components of a place. -/
def isAt (place path : Path) : Bool :=
  path.components = place.components

theorem isAt_iff {place path : Path} :
    isAt place path = true ↔ path.components = place.components :=
  decide_eq_true_iff

theorem le_of_isAt {place first second : Path} (here : isAt place first = true)
    (there : isAt place second = true) : first.le second = true := by
  have same : first.components = second.components :=
    (isAt_iff.mp here).trans (isAt_iff.mp there).symm
  rw [le_iff, key_eq_iff.mpr same]

section Sorting

variable {α : Type} {path : α → Path}

/-- **Things at the same place keep their order** when they are sorted. -/
theorem filter_mergeSort (items : List α) (place : Path) :
    (items.mergeSort fun first second => (path first).le (path second)).filter
        (fun item => isAt place (path item)) =
      items.filter fun item => isAt place (path item) := by
  have alike : (items.filter fun item => isAt place (path item)).Pairwise
      fun first second => (path first).le (path second) = true := by
    refine List.pairwise_of_forall_mem_list fun first inFirst second inSecond => ?_
    exact le_of_isAt (List.mem_filter.mp inFirst).2 (List.mem_filter.mp inSecond).2
  have kept : (items.filter fun item => isAt place (path item)).Sublist
      (items.mergeSort fun first second => (path first).le (path second)) := by
    refine List.sublist_mergeSort ?_ ?_ alike List.filter_sublist
    · intro first second third before after
      exact le_trans before after
    · intro first second
      exact le_total (path first) (path second)
  have inOrder := kept.filter fun item => isAt place (path item)
  simp only [List.filter_filter, Bool.and_self] at inOrder
  exact (inOrder.eq_of_length ((List.mergeSort_perm items _).filter _).length_eq.symm).symm

theorem mem_of_filter_eq {first second : List α}
    (same : ∀ place, (first.filter fun item => isAt place (path item)) =
      second.filter fun item => isAt place (path item)) {item : α} (member : item ∈ first) :
    item ∈ second := by
  have here : item ∈ first.filter fun other => isAt (path item) (path other) :=
    List.mem_filter.mpr ⟨member, isAt_iff.mpr rfl⟩
  rw [same] at here
  exact (List.mem_filter.mp here).1

/-- **Sorted lists with the same things at each place are the same.** -/
theorem eq_of_filter_eq {first second : List α}
    (firstSorted : first.Pairwise fun one other => (path one).le (path other) = true)
    (secondSorted : second.Pairwise fun one other => (path one).le (path other) = true)
    (same : ∀ place, (first.filter fun item => isAt place (path item)) =
      second.filter fun item => isAt place (path item)) :
    first = second := by
  have first_le : ∀ {one item : α} {rest : List α},
      (one :: rest).Pairwise (fun one other => (path one).le (path other) = true) →
      item ∈ one :: rest → (path one).le (path item) = true := by
    intro one item rest sorted member
    rcases List.mem_cons.mp member with rfl | later
    · exact le_of_isAt (isAt_iff.mpr rfl) (isAt_iff.mpr rfl)
    · exact List.rel_of_pairwise_cons sorted later
  induction first generalizing second with
  | nil =>
      cases second with
      | nil => rfl
      | cons other others =>
          cases mem_of_filter_eq (fun place => (same place).symm) List.mem_cons_self
  | cons one rest ih =>
      cases second with
      | nil => cases mem_of_filter_eq same List.mem_cons_self
      | cons other others =>
          -- Each list starts with something that comes before all of the other list.
          have before := first_le firstSorted
            (mem_of_filter_eq (fun place => (same place).symm) List.mem_cons_self)
          have after := first_le secondSorted (mem_of_filter_eq same List.mem_cons_self)
          have place : isAt (path one) (path other) = true :=
            isAt_iff.mpr (components_eq_of_le after before)
          have self : isAt (path one) (path one) = true := isAt_iff.mpr rfl
          have heads := same (path one)
          rw [List.filter_cons, if_pos self, List.filter_cons, if_pos place] at heads
          obtain ⟨rfl, -⟩ := List.cons.inj heads
          refine congrArg (one :: ·) (ih firstSorted.of_cons secondSorted.of_cons fun place => ?_)
          have both := same place
          rw [List.filter_cons, List.filter_cons] at both
          by_cases here : isAt place (path one) = true
          · rw [if_pos here, if_pos here] at both
            exact (List.cons.inj both).2
          · rwa [if_neg here, if_neg here] at both

end Sorting

end Path

/-! ### The order in words -/

/-- The order of components: the root comes first, then a dot, then two dots, then the names, which
are ordered by their bytes. -/
inductive Component.Before : Component → Component → Prop where
  | root {other : Component} (below : other ≠ .root) : Before .root other
  | current_parent : Before .current .parent
  | current_name (name : Text.Bytes) : Before .current (.normal name)
  | parent_name (name : Text.Bytes) : Before .parent (.normal name)
  | names {name other : Text.Bytes} (smaller : name < other) :
      Before (.normal name) (.normal other)

/-- A path is the same as another one or comes before it: the first component in which they differ
decides, and a path comes before its continuations. -/
def Path.UpTo (first second : Path) : Prop :=
  first.components = second.components ∨
    List.Lex Component.Before first.components second.components

/-- Lists are compared as the lists of their keys are. -/
theorem lex_map_iff {α β : Type} {key : α → β} {before : β → β → Prop} {original : α → α → Prop}
    (injective : Function.Injective key)
    (same : ∀ one other, before (key one) (key other) ↔ original one other) (first second : List α) :
    List.Lex before (first.map key) (second.map key) ↔ List.Lex original first second := by
  induction first generalizing second with
  | nil =>
      cases second with
      | nil => simp
      | cons other others => simp
  | cons one rest ih =>
      cases second with
      | nil => simp
      | cons other others =>
          rw [List.map_cons, List.map_cons, List.cons_lex_cons_iff, List.cons_lex_cons_iff, ih, same,
            injective.eq_iff]

theorem Component.key_lt_iff (one other : Component) :
    one.key < other.key ↔ Before one other := by
  have names : ∀ name another : Text.Bytes,
      name.map UInt8.toNat < another.map UInt8.toNat ↔ name < another :=
    lex_map_iff (fun _ _ => UInt8.toNat_inj.mp) fun _ _ => Iff.rfl
  constructor
  · intro smaller
    cases one with
    | root =>
        refine .root fun same => ?_
        rw [same] at smaller
        exact lt_irrefl _ smaller
    | current =>
        cases other with
        | parent => exact .current_parent
        | normal name => exact .current_name name
        | _ => simp [key, List.cons_lt_cons_iff] at smaller
    | parent =>
        cases other with
        | normal name => exact .parent_name name
        | _ => simp [key, List.cons_lt_cons_iff] at smaller
    | normal name =>
        cases other with
        | normal another => exact .names ((names name another).mp (by simpa [key] using smaller))
        | _ => simp [key, List.cons_lt_cons_iff] at smaller
  · intro before
    cases before with
    | root below => cases other <;> simp_all [key, List.cons_lt_cons_iff]
    | names smaller => simpa [key] using (names _ _).mpr smaller
    | _ => simp [key, List.cons_lt_cons_iff]

theorem Path.le_iff_upTo (first second : Path) :
    first.le second = true ↔ first.UpTo second := by
  rw [le_iff, le_iff_eq_or_lt, key_eq_iff]
  exact or_congr_right (lex_map_iff Component.key_injective Component.key_lt_iff _ _)

end Marginalia
