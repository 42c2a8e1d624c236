/-
**Paths that are put together from names.**

A path can be written down as a list of names with slashes between them (`Path.ofPieces`), from the
directory that it starts in or behind a dot (`Path.shown`).  As long as the names are plain ones, the
path falls into exactly these names again (`components_ofPieces`, `components_shown`), so that the two
ways to write it down have the same last name and the same order.
-/

import Marginalia.Proofs.Path.Order
import Marginalia.Proofs.Text.Utf8

namespace Marginalia

open Marginalia.Text

/-- **A plain name** of a file or a directory: a text that is not hidden.  As in every name, there is
no slash in it and no zero byte. -/
structure PlainName (name : Bytes) : Prop where
  nonempty : name ≠ []
  noSlash : slash ∉ name
  noZero : 0 ∉ name
  visible : name.head? ≠ some dot
  isText : ∃ text, name = Utf8.encode text

namespace Path

/-- The path that leads through some pieces. -/
def ofPieces (pieces : List Bytes) : Path :=
  ⟨[slash].intercalate pieces⟩

/-- The path behind a dot, as it is shown in a search that starts in the current directory. -/
def shown (names : List Bytes) : Path :=
  ofPieces ([dot] :: names)

/-! ### Bytes -/

theorem intercalate_concat (front : List Bytes) (name : Bytes) :
    [slash].intercalate (front ++ [name]) = front.flatMap (· ++ [slash]) ++ name := by
  induction front with
  | nil => simp
  | cons first rest ih =>
      cases rest with
      | nil => simp
      | cons second others =>
          rw [List.cons_append, List.cons_append, List.intercalate_cons_cons, ← List.cons_append, ih]
          simp

/-- The bytes of a path are slashes and those of its pieces. -/
theorem mem_ofPieces {pieces : List Bytes} {byte : UInt8}
    (member : byte ∈ (ofPieces pieces).bytes) : byte = slash ∨ ∃ piece ∈ pieces, byte ∈ piece := by
  rcases List.eq_nil_or_concat pieces with rfl | ⟨front, last, rfl⟩
  · simp [ofPieces] at member
  · unfold ofPieces at member
    rw [List.concat_eq_append, intercalate_concat, List.mem_append, List.mem_flatMap] at member
    rcases member with ⟨piece, inside, here⟩ | here
    · rcases List.mem_append.mp here with within | isSlash
      · exact .inr ⟨piece, by simp [inside], within⟩
      · exact .inl (List.mem_singleton.mp isSlash)
    · exact .inr ⟨last, by simp, here⟩

/-- A path behind a dot starts with a dot and a slash. -/
theorem bytes_shown {names : List Bytes} (some : names ≠ []) :
    (shown names).bytes = dot :: slash :: (ofPieces names).bytes := by
  obtain ⟨first, rest, rfl⟩ := List.exists_cons_of_ne_nil some
  exact List.intercalate_cons_cons

theorem splitBytes_unbroken {piece : Bytes} (noSlash : slash ∉ piece) :
    splitBytes slash piece = [piece] := by
  induction piece with
  | nil => rfl
  | cons byte rest ih =>
      rw [List.mem_cons, not_or] at noSlash
      rw [splitBytes, if_neg (Ne.symm noSlash.1), ih noSlash.2]

theorem splitBytes_cut {piece : Bytes} (noSlash : slash ∉ piece) (rest : Bytes) :
    splitBytes slash (piece ++ slash :: rest) = piece :: splitBytes slash rest := by
  induction piece with
  | nil => simp [splitBytes]
  | cons byte others ih =>
      rw [List.mem_cons, not_or] at noSlash
      rw [List.cons_append, splitBytes, if_neg (Ne.symm noSlash.1), ih noSlash.2]

/-- **A path falls into the pieces that it was put together from.** -/
theorem splitBytes_ofPieces {pieces : List Bytes} (some : pieces ≠ [])
    (noSlash : ∀ piece ∈ pieces, slash ∉ piece) :
    splitBytes slash (ofPieces pieces).bytes = pieces := by
  induction pieces with
  | nil => exact absurd rfl some
  | cons first rest ih =>
      have here := noSlash first List.mem_cons_self
      cases rest with
      | nil => simpa [ofPieces] using splitBytes_unbroken here
      | cons second others =>
          have later := ih (List.cons_ne_nil _ _) fun piece member =>
            noSlash piece (List.mem_cons_of_mem first member)
          have bytes : (ofPieces (first :: second :: others)).bytes =
              first ++ slash :: (ofPieces (second :: others)).bytes := by
            simp [ofPieces, List.intercalate_cons_cons]
          rw [bytes, splitBytes_cut here, later]

theorem splitBytes_shown {names : List Bytes} (plain : ∀ name ∈ names, PlainName name) :
    splitBytes slash (shown names).bytes = [dot] :: names := by
  refine splitBytes_ofPieces (List.cons_ne_nil _ _) ?_
  intro piece member
  rcases List.mem_cons.mp member with rfl | inside
  · decide
  · exact (plain piece inside).noSlash

/-- A path ends as its last piece does. -/
theorem getLast?_ofPieces {pieces : List Bytes} {last : Bytes} (nonempty : last ≠ [])
    (noSlash : slash ∉ last) : (ofPieces (pieces ++ [last])).bytes.getLast? ≠ some slash := by
  unfold ofPieces
  rw [intercalate_concat, List.getLast?_append_of_ne_nil _ nonempty]
  exact fun found => noSlash (List.mem_of_getLast? found)

/-- An entry of a directory is reached by one more piece. -/
theorem join_ofPieces {pieces : List Bytes} {last : Bytes} (nonempty : last ≠ [])
    (noSlash : slash ∉ last) (name : Bytes) :
    (ofPieces (pieces ++ [last])).join name = ofPieces (pieces ++ [last] ++ [name]) := by
  have ended := @getLast?_ofPieces pieces last nonempty noSlash
  have some : (ofPieces (pieces ++ [last])).bytes ≠ [] := by
    unfold ofPieces
    simp [intercalate_concat, nonempty]
  rw [join, if_neg some, if_neg ended]
  unfold ofPieces
  rw [intercalate_concat pieces last, intercalate_concat (pieces ++ [last]) name]
  simp

section Shown

variable {names : List Bytes} (plain : ∀ name ∈ names, PlainName name)

include plain

/-- A path behind a dot has a last piece, which ends in no slash. -/
theorem shown_eq_concat : ∃ pieces last, [dot] :: names = pieces ++ [last] ∧ last ≠ [] ∧
    slash ∉ last := by
  rcases List.eq_nil_or_concat names with rfl | ⟨front, last, rfl⟩
  · exact ⟨[], [dot], rfl, by decide, by decide⟩
  · have lastPlain := plain last (by simp)
    exact ⟨[dot] :: front, last, by simp, lastPlain.nonempty, lastPlain.noSlash⟩

theorem getLast?_shown : (shown names).bytes.getLast? ≠ some slash := by
  obtain ⟨pieces, last, whole, nonempty, noSlash⟩ := shown_eq_concat plain
  rw [shown, whole]
  exact getLast?_ofPieces nonempty noSlash

theorem zero_not_mem_shown : 0 ∉ (shown names).bytes := by
  intro member
  rcases mem_ofPieces member with isSlash | ⟨piece, inside, here⟩
  · exact absurd isSlash (by decide)
  · rcases List.mem_cons.mp inside with rfl | isName
    · exact absurd here (by decide)
    · exact (plain piece isName).noZero here

theorem join_shown (name : Bytes) : (shown names).join name = shown (names ++ [name]) := by
  obtain ⟨pieces, last, whole, nonempty, noSlash⟩ := shown_eq_concat plain
  rw [shown, shown, ← List.cons_append, whole]
  exact join_ofPieces nonempty noSlash name

end Shown

theorem isAbsolute_shown (names : List Bytes) : (shown names).isAbsolute = false := by
  cases names <;> simp [isAbsolute, shown, ofPieces, List.intercalate_cons_cons, dot, slash]

/-! ### Components -/

theorem ofPiece?_plain {name : Bytes} (plain : PlainName name) :
    Component.ofPiece? name = some (.normal name) := by
  have notDot : name ≠ [dot] := fun equal => plain.visible (equal ▸ rfl)
  have notDots : name ≠ [dot, dot] := fun equal => plain.visible (equal ▸ rfl)
  simp [Component.ofPiece?, plain.nonempty, notDot, notDots]

theorem filterMap_ofPiece? {names : List Bytes} (plain : ∀ name ∈ names, PlainName name) :
    names.filterMap Component.ofPiece? = names.map .normal := by
  rw [← List.filterMap_eq_map]
  exact List.filterMap_congr fun name member => ofPiece?_plain (plain name member)

theorem components_ofPieces {names : List Bytes} (some : names ≠ [])
    (plain : ∀ name ∈ names, PlainName name) :
    (ofPieces names).components = names.map .normal := by
  have pieces : splitBytes slash (ofPieces names).bytes = names :=
    splitBytes_ofPieces some fun name member => (plain name member).noSlash
  obtain ⟨first, rest, rfl⟩ := List.exists_cons_of_ne_nil some
  have firstPlain := plain first List.mem_cons_self
  have notDot : first ≠ [dot] := fun equal => firstPlain.visible (equal ▸ rfl)
  have relative : (ofPieces (first :: rest)).isAbsolute = false := by
    obtain ⟨byte, others, rfl⟩ := List.exists_cons_of_ne_nil firstPlain.nonempty
    have notSlash : byte ≠ slash := fun equal => firstPlain.noSlash (equal ▸ List.mem_cons_self)
    cases rest <;> simp [isAbsolute, ofPieces, List.intercalate_cons_cons, notSlash]
  simp only [components, pieces, relative, filterMap_ofPiece? plain]
  simp [notDot]

theorem components_shown {names : List Bytes} (plain : ∀ name ∈ names, PlainName name) :
    (shown names).components = .current :: names.map .normal := by
  have noDot : Component.ofPiece? [dot] = none := by decide
  simp only [components, splitBytes_shown plain, isAbsolute_shown, List.filterMap_cons, noDot,
    filterMap_ofPiece? plain]
  rfl

/-! ### The last name and the order -/

theorem fileName?_ofPieces {names : List Bytes} (some : names ≠ [])
    (plain : ∀ name ∈ names, PlainName name) : (ofPieces names).fileName? = names.getLast? := by
  rw [fileName?, components_ofPieces some plain, List.getLast?_map]
  cases names.getLast? <;> rfl

theorem fileName?_shown {names : List Bytes} (some : names ≠ [])
    (plain : ∀ name ∈ names, PlainName name) : (shown names).fileName? = names.getLast? := by
  rw [fileName?, components_shown plain, List.getLast?_cons_of_ne_nil (by simpa using some),
    List.getLast?_map]
  cases names.getLast? <;> rfl

/-- **The dot in front does not change the order of paths.** -/
theorem le_shown {first second : List Bytes} (firstSome : first ≠ []) (secondSome : second ≠ [])
    (firstPlain : ∀ name ∈ first, PlainName name) (secondPlain : ∀ name ∈ second, PlainName name) :
    (shown first).le (shown second) = (ofPieces first).le (ofPieces second) := by
  unfold Path.le key
  rw [components_shown firstPlain, components_shown secondPlain,
    components_ofPieces firstSome firstPlain, components_ofPieces secondSome secondPlain]
  simp [lexLe]

end Path

end Marginalia
