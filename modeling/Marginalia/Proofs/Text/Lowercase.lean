/-
**What lower-casing leaves alone.**

Each character has a lower-case form of at least one character, so only the empty text becomes empty
(`lowercase_eq_empty_iff`).  No character but the dot becomes a dot or a text with a dot in it
(`dot_mem_lowerChar`), because the table maps to letters only (`lowercaseRuns_above`): lower-casing
keeps the dots of a text and adds none (`dot_mem_lowercase`).
-/

import Marginalia.Proofs.Text.Utf8
import Marginalia.Text.Lowercase

namespace Marginalia.Text

/-! ### One character -/

theorem lowerChar_ne_nil (c : Char) : lowerChar c ≠ [] := by
  unfold lowerChar
  split
  · exact List.cons_ne_nil _ _
  · split
    · exact List.cons_ne_nil _ _
    · split <;> exact List.cons_ne_nil _ _

/-- The runs of the table lead to numbers behind that of the dot. -/
theorem lowercaseRuns_above {run : CaseRun} (member : run ∈ lowercaseRuns) :
    ('.'.toNat : Int) < run.first + run.shift := by
  have all : lowercaseRuns.all (fun run => ('.'.toNat : Int) < run.first + run.shift) = true := by
    decide +kernel
  exact of_decide_eq_true (List.all_eq_true.mp all run member)

theorem dot_ne_ofNat {code : Nat} (above : '.'.toNat < code) : '.' ≠ Char.ofNat code := by
  by_cases valid : code < 0xd800 ∨ 0xdfff < code ∧ code < 0x110000
  · intro dot
    have number := congrArg Char.toNat dot
    rw [Utf8.toNat_ofNat_valid valid] at number
    omega
  · have invalid : ¬ code.isValidChar := valid
    have zero : Char.ofNat code = '\x00' := by
      rw [Char.ofNat, dif_neg invalid]
      rfl
    rw [zero]
    decide

theorem dot_eq_toLower {c : Char} (ascii : c.toNat < 0x80) : '.' = c.toLower ↔ '.' = c := by
  have all : ∀ code < 0x80, '.' = (Char.ofNat code).toLower ↔ '.' = Char.ofNat code := by decide
  have here := all c.toNat ascii
  rwa [Char.ofNat_toNat] at here

/-- **Only the dot has a dot in its lower-case form.** -/
theorem dot_mem_lowerChar (c : Char) : '.' ∈ lowerChar c ↔ '.' = c := by
  by_cases ascii : c.toNat < 0x80
  · rw [lowerChar, if_pos ascii, List.mem_singleton, dot_eq_toLower ascii]
  · have other : '.' ≠ c := by
      rintro rfl
      exact ascii (by decide)
    refine iff_of_false ?_ other
    rw [lowerChar, if_neg ascii]
    split
    · decide
    · split
      · rename_i run found
        rw [List.mem_singleton]
        have above := lowercaseRuns_above (List.mem_of_find?_eq_some found)
        have contains : run.contains c.toNat = true := by simpa using List.find?_some found
        have reached : run.first ≤ c.toNat := by
          simp only [CaseRun.contains, Bool.and_eq_true, decide_eq_true_eq] at contains
          exact contains.1.1
        exact dot_ne_ofNat (by omega)
      · rw [List.mem_singleton]
        exact other

/-! ### Texts -/

theorem lowercaseFrom_eq_nil_iff (before rest : List Char) :
    lowercaseFrom before rest = [] ↔ rest = [] := by
  cases rest with
  | nil => exact iff_of_true rfl rfl
  | cons c rest =>
      refine iff_of_false (fun nothing => ?_) (List.cons_ne_nil c rest)
      rw [lowercaseFrom, List.append_eq_nil_iff] at nothing
      split at nothing
      · exact List.cons_ne_nil _ _ nothing.1
      · exact lowerChar_ne_nil c nothing.1

theorem dot_mem_lowercaseFrom (before rest : List Char) :
    '.' ∈ lowercaseFrom before rest ↔ '.' ∈ rest := by
  induction rest generalizing before with
  | nil => exact Iff.rfl
  | cons c rest ih =>
      rw [lowercaseFrom, List.mem_append, ih, List.mem_cons]
      refine or_congr_left ?_
      split
      · rename_i sigma
        rw [sigma]
        split <;> decide
      · exact dot_mem_lowerChar c

/-- **Only the empty text has an empty lower-case form.** -/
theorem lowercase_eq_empty_iff (text : String) : lowercase text = "" ↔ text = "" := by
  rw [lowercase, String.ofList_eq_empty_iff, lowercaseFrom_eq_nil_iff, String.toList_eq_nil_iff]

/-- **Lower-casing keeps dots and makes none.** -/
theorem dot_mem_lowercase (text : String) : '.' ∈ (lowercase text).toList ↔ '.' ∈ text.toList := by
  rw [lowercase, String.toList_ofList, dot_mem_lowercaseFrom]

end Marginalia.Text
