/-
**Looking up keys in a list of pairs.**

The first pair of a key counts.  If the keys are distinct, it is the only one.
-/

import Mathlib.Data.List.Nodup

namespace Marginalia

variable {κ ν : Type} [BEq κ] [LawfulBEq κ] {pairs : List (κ × ν)}

theorem lookup_of_mem (distinct : (pairs.map (·.1)).Nodup) {pair : κ × ν} (member : pair ∈ pairs) :
    pairs.lookup pair.1 = some pair.2 := by
  induction pairs with
  | nil => cases member
  | cons first rest ih =>
      obtain ⟨absent, later⟩ := List.nodup_cons.mp distinct
      rcases List.mem_cons.mp member with rfl | inside
      · exact List.lookup_cons_self
      · have different : (pair.1 == first.1) = false := by
          rw [beq_eq_false_iff_ne]
          intro same
          exact absent (List.mem_map.mpr ⟨pair, inside, same⟩)
        rw [List.lookup_cons, different]
        exact ih later inside

theorem mem_of_lookup {key : κ} {value : ν} (found : pairs.lookup key = some value) :
    (key, value) ∈ pairs := by
  obtain ⟨front, back, rfl, _⟩ := List.lookup_eq_some_iff.mp found
  simp

theorem lookup_eq_none_iff_not_mem {key : κ} :
    pairs.lookup key = none ↔ key ∉ pairs.map (·.1) := by
  rw [List.lookup_eq_none_iff, List.mem_map]
  constructor
  · rintro different ⟨pair, member, rfl⟩
    simpa using different pair member
  · intro absent pair member
    rw [bne_iff_ne]
    rintro rfl
    exact absent ⟨pair, member, rfl⟩

/-- Looking up a key among keys that all have the same value. -/
theorem lookup_map_const {keys : List κ} {key : κ} [Decidable (key ∈ keys)] (value : ν) :
    (keys.map (·, value)).lookup key = if key ∈ keys then some value else none := by
  split
  · rename_i member
    have found : (keys.map (·, value)).lookup key ≠ none := by
      rw [ne_eq, lookup_eq_none_iff_not_mem]
      simpa using member
    obtain ⟨other, same⟩ := Option.ne_none_iff_exists'.mp found
    obtain ⟨_, _, equal⟩ := List.mem_map.mp (mem_of_lookup same)
    rw [same, (Prod.mk.inj equal).2]
  · rename_i absent
    rw [lookup_eq_none_iff_not_mem]
    simpa using absent

end Marginalia
