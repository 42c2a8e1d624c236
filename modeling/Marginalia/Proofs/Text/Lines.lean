/-
**What the lines of a text look like.**

* `Lined`: each text but the last ends in its only line feed, and the last is not empty.  The lines
  of a text are such a list (`lined_lines`), and such a list is the lines of its texts put together
  (`lines_flatten`), so a stretch of lines taken out of a source is again the lines of a source.
* `dropBytes`: the rest of a line from a byte offset on.
* `linesBetween`: the lines of a source between two line numbers.
-/

import Marginalia.Text.Line

namespace Marginalia.Text

/-! ### Lists that are the lines of a text -/

/-- Texts that are the lines of a text: only the last can lack its line feed. -/
inductive Lined : List (List Char) → Prop where
  | nil : Lined []
  | last {line : List Char} (nonempty : line ≠ []) (unbroken : '\n' ∉ line) : Lined [line]
  | cons (body : List Char) {rest : List (List Char)} (unbroken : '\n' ∉ body)
      (others : Lined rest) : Lined ((body ++ ['\n']) :: rest)

/-- The first line reaches to the first line feed. -/
theorem lines_append_feed {body : List Char} (unbroken : '\n' ∉ body) (rest : List Char) :
    lines (body ++ '\n' :: rest) = (body ++ ['\n']) :: lines rest := by
  induction body with
  | nil => simp [lines]
  | cons c body ih =>
      rw [List.mem_cons, not_or] at unbroken
      rw [List.cons_append, lines, if_neg (Ne.symm unbroken.1), ih unbroken.2]
      rfl

/-- A text without line feeds is one line. -/
theorem lines_unbroken {line : List Char} (unbroken : '\n' ∉ line) (nonempty : line ≠ []) :
    lines line = [line] := by
  induction line with
  | nil => exact absurd rfl nonempty
  | cons c rest ih =>
      rw [List.mem_cons, not_or] at unbroken
      rw [lines, if_neg (Ne.symm unbroken.1)]
      cases rest with
      | nil => rfl
      | cons d more => rw [ih unbroken.2 (List.cons_ne_nil d more)]

/-- The lines of the texts put together are the texts. -/
theorem lines_flatten {texts : List (List Char)} (lined : Lined texts) :
    lines texts.flatten = texts := by
  induction lined with
  | nil => rfl
  | last nonempty unbroken => simpa using lines_unbroken unbroken nonempty
  | cons body unbroken others ih =>
      rw [List.flatten_cons, List.append_assoc, List.singleton_append,
        lines_append_feed unbroken, ih]

/-- Another character at the start lengthens the first line. -/
theorem Lined.cons_first {c : Char} {line : List Char} {rest : List (List Char)} (feed : c ≠ '\n')
    (lined : Lined (line :: rest)) : Lined ((c :: line) :: rest) := by
  cases lined with
  | last nonempty unbroken =>
      exact .last (List.cons_ne_nil c line) (by simp [unbroken, Ne.symm feed])
  | cons body unbroken others => exact .cons (c :: body) (by simp [unbroken, Ne.symm feed]) others

theorem lined_lines (text : List Char) : Lined (lines text) := by
  induction text with
  | nil => exact .nil
  | cons c rest ih =>
      rw [lines]
      by_cases feed : c = '\n'
      · rw [if_pos feed, feed]
        exact .cons [] (by simp) ih
      · rw [if_neg feed]
        cases tail : lines rest with
        | nil => exact .last (by simp) (by simp [Ne.symm feed])
        | cons line others => exact .cons_first feed (tail ▸ ih)

/-! ### Stretches of lines -/

theorem Lined.tail {line : List Char} {rest : List (List Char)} (lined : Lined (line :: rest)) :
    Lined rest := by
  cases lined with
  | last nonempty unbroken => exact .nil
  | cons body unbroken others => exact others

theorem Lined.right {front back : List (List Char)} (lined : Lined (front ++ back)) :
    Lined back := by
  induction front with
  | nil => exact lined
  | cons line rest ih => exact ih lined.tail

theorem Lined.left {front back : List (List Char)} (lined : Lined (front ++ back)) :
    Lined front := by
  induction front with
  | nil => exact .nil
  | cons line rest ih =>
      have others := ih lined.tail
      rw [List.cons_append] at lined
      generalize whole : rest ++ back = all at lined
      cases lined with
      | last nonempty unbroken =>
          rw [(List.append_eq_nil_iff.mp whole).1]
          exact .last nonempty unbroken
      | cons body unbroken _ => exact .cons body unbroken others

theorem Lined.single {texts : List (List Char)} {line : List Char} (lined : Lined texts)
    (member : line ∈ texts) : Lined [line] := by
  obtain ⟨front, back, rfl⟩ := List.append_of_mem member
  have here : Lined ([line] ++ back) := lined.right
  exact here.left

/-- A nonempty ending of a line that ends in its only line feed ends in it too. -/
theorem suffix_of_feed {body before ending : List Char} (split : body ++ ['\n'] = before ++ ending)
    (nonempty : ending ≠ []) (unbroken : '\n' ∉ body) :
    ∃ rest, ending = rest ++ ['\n'] ∧ '\n' ∉ rest := by
  obtain ⟨rest, feed, rfl⟩ := (List.eq_nil_or_concat ending).resolve_left nonempty
  rw [List.concat_eq_append, ← List.append_assoc] at split
  obtain ⟨same, feedEq⟩ := List.append_inj' split rfl
  refine ⟨rest, ?_, fun member => unbroken ?_⟩
  · rw [List.concat_eq_append, feedEq]
  · rw [same]
    exact List.mem_append_right before member

/-- Cutting each line short at its start leaves lines, as long as something is left of each. -/
theorem Lined.map_suffix {texts : List (List Char)} {cut : List Char → List Char}
    (lined : Lined texts)
    (suffix : ∀ line ∈ texts, cut line ≠ [] ∧ ∃ before, line = before ++ cut line) :
    Lined (texts.map cut) := by
  induction lined with
  | nil => exact .nil
  | @last line nonempty unbroken =>
      obtain ⟨remains, before, split⟩ := suffix line (by simp)
      refine .last remains fun member => unbroken ?_
      rw [split]
      exact List.mem_append_right before member
  | cons body unbroken others ih =>
      obtain ⟨remains, before, split⟩ := suffix (body ++ ['\n']) (by simp)
      obtain ⟨rest, same, unbrokenRest⟩ := suffix_of_feed split remains unbroken
      rw [List.map_cons, same]
      exact .cons rest unbrokenRest (ih fun line member => suffix line (by simp [member]))

/-! ### Byte offsets and line numbers -/

/-- The text behind its first bytes; a character that the offset cuts through is dropped too. -/
def dropBytes : Nat → List Char → List Char
  | 0, text => text
  | _ + 1, [] => []
  | bytes + 1, c :: rest => dropBytes (bytes + 1 - c.utf8Size) rest

/-- At the end of a first part, the offset leaves the second. -/
theorem dropBytes_byteLength (before rest : List Char) :
    dropBytes (byteLength before) (before ++ rest) = rest := by
  induction before with
  | nil => cases rest <;> rfl
  | cons c before ih =>
      have positive := c.utf8Size_pos
      obtain ⟨bytes, size⟩ : ∃ bytes, byteLength (c :: before) = bytes + 1 :=
        ⟨byteLength (c :: before) - 1, by simp; omega⟩
      have remaining : bytes + 1 - c.utf8Size = byteLength before := by
        rw [← size, byteLength_cons]
        omega
      rw [size, List.cons_append, dropBytes, remaining, ih]

/-- A comment sign stands at the byte offset, which is then the start of a character. -/
def HashAt (column : Nat) (line : List Char) : Prop :=
  ∃ before after, line = before ++ '#' :: after ∧ byteLength before = column

theorem HashAt.split {column : Nat} {line : List Char} (hash : HashAt column line) :
    ∃ before after, line = before ++ dropBytes column line ∧
      dropBytes column line = '#' :: after := by
  obtain ⟨before, after, rfl, rfl⟩ := hash
  exact ⟨before, after, by rw [dropBytes_byteLength], by rw [dropBytes_byteLength]⟩

/-- The line of a number, counted from one. -/
def lineAt? (lines : List (List Char)) (number : Nat) : Option (List Char) :=
  lines[number - 1]?

/-- The lines from one number to another, both included. -/
def linesBetween (lines : List (List Char)) (first last : Nat) : List (List Char) :=
  (lines.drop (first - 1)).take (last + 1 - first)

/-- The lines of a stretch are those between its line numbers. -/
theorem linesBetween_append (before block after : List (List Char)) :
    linesBetween (before ++ block ++ after) (before.length + 1) (before.length + block.length) =
      block := by
  have count : before.length + block.length + 1 - (before.length + 1) = block.length := by omega
  rw [linesBetween, count, Nat.add_sub_cancel, List.append_assoc, List.drop_left, List.take_left]

end Marginalia.Text
