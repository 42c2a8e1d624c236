/-
**Sets of characters given by code ranges.**

A property of characters that a standard lists is kept as a table of inclusive code ranges; a
character has the property if one range holds its code point (`CodeTable.contains_iff`).
-/

namespace Marginalia.Text

/-- Inclusive ranges of code points. -/
abbrev CodeTable := List (Nat × Nat)

/-- Whether some range of the table holds the character. -/
def CodeTable.contains (table : CodeTable) (c : Char) : Bool :=
  table.any fun range => range.1 ≤ c.toNat && c.toNat ≤ range.2

theorem CodeTable.contains_iff (table : CodeTable) (c : Char) :
    table.contains c = true ↔ ∃ range ∈ table, range.1 ≤ c.toNat ∧ c.toNat ≤ range.2 := by
  simp [CodeTable.contains]

end Marginalia.Text
