/-
**The members of an object.**

Members are put in one after the other (`putAll`).  A key keeps the place at which it was first put
in and has the value that was put in last.

* `get?_insert` and `keys_insert` say what one step does.
* `putAll_fresh`: keys that are new go to the end, in their order.
* `perm_putAll`: what is left are the members that no later one replaces (`lasting`).
-/

import Marginalia.Json.Basic
import Marginalia.Proofs.Lookup
import Mathlib.Algebra.GroupWithZero.Nat
import Mathlib.Data.List.Perm.Basic

namespace Marginalia.Json.Members

/-- The keys of some members, in order. -/
def keys (members : Members) : List String :=
  members.map (·.1)

/-- Puts in members, one after the other. -/
def putAll (members pairs : Members) : Members :=
  pairs.foldl (fun members pair => insert members pair.1 pair.2) members

@[simp] theorem keys_nil : keys [] = [] := rfl

@[simp] theorem keys_cons (pair : String × Json) (rest : Members) :
    keys (pair :: rest) = pair.1 :: keys rest := rfl

@[simp] theorem keys_append (front back : Members) :
    keys (front ++ back) = keys front ++ keys back :=
  List.map_append

@[simp] theorem get?_nil (key : String) : get? [] key = none := rfl

@[simp] theorem get?_cons (name : String) (value : Json) (rest : Members) (key : String) :
    get? ((name, value) :: rest) key = if key = name then some value else get? rest key := by
  unfold get?
  rw [List.lookup_cons]
  by_cases same : key = name
  · simp [same]
  · rw [beq_false_of_ne same, if_neg same]

@[simp] theorem get?_append (front back : Members) (key : String) :
    get? (front ++ back) key = (get? front key).or (get? back key) :=
  List.lookup_append

theorem get?_eq_none_iff {members : Members} {key : String} :
    get? members key = none ↔ key ∉ keys members :=
  lookup_eq_none_iff_not_mem

@[simp] theorem putAll_nil (members : Members) : putAll members [] = members := rfl

theorem putAll_cons (members : Members) (pair : String × Json) (rest : Members) :
    putAll members (pair :: rest) = putAll (insert members pair.1 pair.2) rest := rfl

theorem putAll_append (members front back : Members) :
    putAll members (front ++ back) = putAll (putAll members front) back :=
  List.foldl_append

/-! ### Putting in one member -/

theorem get?_insert (members : Members) (key : String) (value : Json) (other : String) :
    get? (insert members key value) other =
      if other = key then some value else get? members other := by
  induction members with
  | nil => simp [insert]
  | cons first rest ih =>
      obtain ⟨name, old⟩ := first
      rw [insert]
      by_cases here : name = key
      · rw [if_pos here, get?_cons, get?_cons, here]
        by_cases same : other = key <;> simp [same]
      · rw [if_neg here, get?_cons, get?_cons, ih]
        by_cases same : other = name
        · simp [same, here]
        · simp [same]

theorem keys_insert (members : Members) (key : String) (value : Json) :
    keys (insert members key value) =
      if key ∈ keys members then keys members else keys members ++ [key] := by
  induction members with
  | nil => simp [insert]
  | cons first rest ih =>
      obtain ⟨name, old⟩ := first
      rw [insert]
      by_cases here : name = key
      · simp [here]
      · rw [if_neg here, keys_cons, keys_cons, ih]
        by_cases later : key ∈ keys rest
        · simp [later]
        · simp [later, Ne.symm here]

theorem nodup_insert {members : Members} (distinct : (keys members).Nodup) (key : String)
    (value : Json) : (keys (insert members key value)).Nodup := by
  rw [keys_insert]
  split
  · exact distinct
  · next fresh =>
      rw [List.nodup_append]
      refine ⟨distinct, List.nodup_singleton key, ?_⟩
      rintro one member _ last rfl
      exact fresh (List.mem_singleton.mp last ▸ member)

theorem insert_fresh {members : Members} {key : String} (fresh : key ∉ keys members)
    (value : Json) : insert members key value = members ++ [(key, value)] := by
  induction members with
  | nil => rfl
  | cons first rest ih =>
      rw [keys_cons, List.mem_cons, not_or] at fresh
      rw [insert, if_neg (Ne.symm fresh.1), ih fresh.2]
      rfl

/-- A member that is put in replaces the one with its key, wherever that stands. -/
theorem perm_insert {members : Members} (distinct : (keys members).Nodup) (key : String)
    (value : Json) :
    (insert members key value).Perm ((key, value) :: members.filter (·.1 ≠ key)) := by
  induction members with
  | nil => exact .refl _
  | cons first rest ih =>
      obtain ⟨name, old⟩ := first
      obtain ⟨absent, later⟩ := List.nodup_cons.mp distinct
      rw [insert]
      by_cases here : name = key
      · have others : rest.filter (·.1 ≠ key) = rest := by
          rw [List.filter_eq_self]
          intro pair member
          rw [decide_eq_true_eq]
          intro same
          exact absent (List.mem_map.mpr ⟨pair, member, by rw [same, here]⟩)
        rw [if_pos here, List.filter_cons_of_neg (by simp [here]), others, here]
      · rw [if_neg here, List.filter_cons_of_pos (by simp [here])]
        exact ((ih later).cons _).trans (.swap _ _ _)

theorem mem_insert {members : Members} {key : String} {value : Json} {pair : String × Json}
    (member : pair ∈ insert members key value) : pair = (key, value) ∨ pair ∈ members := by
  induction members with
  | nil => exact .inl (List.mem_singleton.mp member)
  | cons first rest ih =>
      obtain ⟨name, old⟩ := first
      rw [insert] at member
      by_cases here : name = key
      · rw [if_pos here, here] at member
        exact (List.mem_cons.mp member).imp_right (List.mem_cons_of_mem _)
      · rw [if_neg here] at member
        rcases List.mem_cons.mp member with rfl | inside
        · exact .inr List.mem_cons_self
        · exact (ih inside).imp_right (List.mem_cons_of_mem _)

/-- A member that is put in adds its weight and takes away that of the member it replaces. -/
theorem sum_insert (weight : Json → Nat) (members : Members) (key : String) (value : Json) :
    ((insert members key value).map (weight ·.2)).sum + ((get? members key).map weight).getD 0 =
      (members.map (weight ·.2)).sum + weight value := by
  induction members with
  | nil => simp [insert]
  | cons first rest ih =>
      obtain ⟨name, old⟩ := first
      rw [insert, get?_cons]
      by_cases here : name = key
      · rw [if_pos here, if_pos here.symm, List.map_cons, List.map_cons, List.sum_cons,
          List.sum_cons, Option.map_some, Option.getD_some]
        dsimp only
        omega
      · rw [if_neg here, if_neg (Ne.symm here), List.map_cons, List.map_cons, List.sum_cons,
          List.sum_cons]
        omega

/-! ### Putting in many -/

/-- Keys that are new follow the old ones, each once, in the order in which they first come. -/
theorem keys_putAll (members pairs : Members) :
    keys (putAll members pairs) =
      keys members ++ ((keys pairs).filter (· ∉ keys members)).eraseDups := by
  induction pairs generalizing members with
  | nil => simp
  | cons pair rest ih =>
      rw [putAll_cons, ih, keys_insert, keys_cons]
      by_cases known : pair.1 ∈ keys members
      · rw [if_pos known, List.filter_cons_of_neg (by simp [known])]
      · rw [if_neg known, List.filter_cons_of_pos (by simp [known]), List.eraseDups_cons,
          List.filter_filter, List.append_assoc, List.singleton_append]
        congr 4
        funext key
        simp [Bool.and_comm, beq_eq_decide]

/-- **New keys go to the end**, in the order in which they are put in. -/
theorem putAll_fresh {members pairs : Members} (distinct : (keys (members ++ pairs)).Nodup) :
    putAll members pairs = members ++ pairs := by
  induction pairs generalizing members with
  | nil => simp
  | cons pair rest ih =>
      have fresh : pair.1 ∉ keys members := by
        rw [keys_append, List.nodup_append] at distinct
        intro member
        exact distinct.2.2 _ member _ List.mem_cons_self rfl
      have moved : members ++ pair :: rest = members ++ [pair] ++ rest := by simp
      rw [putAll_cons, insert_fresh fresh, ih (moved ▸ distinct), moved]

theorem ofList_of_nodup {pairs : Members} (distinct : (keys pairs).Nodup) : ofList pairs = pairs :=
  putAll_fresh distinct

/-- The members that no later one replaces. -/
def lasting : Members → Members
  | [] => []
  | pair :: rest => if pair.1 ∈ keys rest then lasting rest else pair :: lasting rest

/-- **What is left** are the old members whose keys do not come again, and the last member of each
key that does. -/
theorem perm_putAll {members : Members} (distinct : (keys members).Nodup) (pairs : Members) :
    (putAll members pairs).Perm (members.filter (·.1 ∉ keys pairs) ++ lasting pairs) := by
  induction pairs generalizing members with
  | nil => simp [lasting]
  | cons pair rest ih =>
      have step := ih (nodup_insert distinct pair.1 pair.2)
      have replaced := (perm_insert distinct pair.1 pair.2).filter (·.1 ∉ keys rest)
      have kept : (members.filter (·.1 ≠ pair.1)).filter (·.1 ∉ keys rest) =
          members.filter (·.1 ∉ keys (pair :: rest)) := by
        rw [List.filter_filter]
        congr 1
        funext old
        simp [Bool.and_comm]
      rw [lasting]
      by_cases again : pair.1 ∈ keys rest
      · rw [if_pos again]
        rw [List.filter_cons_of_neg (by simp [again]), kept] at replaced
        exact step.trans (replaced.append_right _)
      · rw [if_neg again]
        rw [List.filter_cons_of_pos (by simp [again]), kept] at replaced
        exact (step.trans (replaced.append_right _)).trans List.perm_middle.symm

theorem lasting_subset (pairs : Members) : lasting pairs ⊆ pairs := by
  induction pairs with
  | nil => exact List.Subset.refl _
  | cons pair rest ih =>
      rw [lasting]
      split
      · exact List.subset_cons_of_subset pair ih
      · exact List.cons_subset_cons pair ih

/-- What is left weighs at most as much as all that is put in. -/
theorem sum_lasting_le (weight : String × Json → Nat) (pairs : Members) :
    ((lasting pairs).map weight).sum ≤ (pairs.map weight).sum := by
  induction pairs with
  | nil => exact Nat.le_refl _
  | cons pair rest ih =>
      rw [lasting, List.map_cons, List.sum_cons]
      split
      · omega
      · rw [List.map_cons, List.sum_cons]
        omega

/-- **No weight is lost** if and only if all that is replaced weighs nothing. -/
theorem sum_lasting_eq_iff (weight : String × Json → Nat) (pairs : Members) :
    ((lasting pairs).map weight).sum = (pairs.map weight).sum ↔
      pairs.Pairwise fun pair later => pair.1 = later.1 → weight pair = 0 := by
  induction pairs with
  | nil => exact iff_of_true rfl .nil
  | cons pair rest ih =>
      have upper := sum_lasting_le weight rest
      rw [lasting, List.pairwise_cons, ← ih, List.map_cons, List.sum_cons]
      by_cases again : pair.1 ∈ keys rest
      · have free : (∀ later ∈ rest, pair.1 = later.1 → weight pair = 0) ↔ weight pair = 0 := by
          obtain ⟨later, member, same⟩ := List.mem_map.mp again
          exact ⟨fun all => all later member same.symm, fun zero _ _ _ => zero⟩
        rw [if_pos again, free]
        omega
      · have vacuous : ∀ later ∈ rest, pair.1 = later.1 → weight pair = 0 := by
          intro later member same
          exact absurd (List.mem_map.mpr ⟨later, member, same.symm⟩) again
        rw [if_neg again, List.map_cons, List.sum_cons, Nat.add_left_cancel_iff]
        exact (and_iff_right vacuous).symm

end Marginalia.Json.Members
