/-
**Line breaks at the end of lines.**

* `LineEnd`: a text of nothing but line breaks.  A search that does not look for line breaks finds
  the same in a text whether such an ending follows or not.
* `crlf`: the text with a carriage return before each line feed.  Its lines are the lines of the
  text, each with its own line end changed (`lines_crlf`).
* `lines_append_feed_last`: a line feed at the very end only ends the last line.
-/

import Marginalia.Proofs.Text.Lines
import Marginalia.Proofs.Text.Space

namespace Marginalia.Text

/-! ### Endings -/

theorem isLineBreak_cases {c : Char} (isBreak : isLineBreak c = true) : c = '\n' ∨ c = '\r' := by
  simpa [isLineBreak] using isBreak

/-- A line break is white space. -/
theorem isSpace_of_isLineBreak {c : Char} (isBreak : isLineBreak c = true) : isSpace c = true := by
  rcases isLineBreak_cases isBreak with rfl | rfl <;> decide

/-- The text is made of line breaks. -/
def LineEnd (ending : List Char) : Prop :=
  ∀ c ∈ ending, isLineBreak c = true

theorem lineEnd_feed : LineEnd ['\n'] := by
  intro c member
  rw [List.mem_singleton.mp member]
  rfl

theorem lineEnd_crlf : LineEnd ['\r', '\n'] := by
  intro c member
  rcases List.mem_cons.mp member with rfl | last
  · rfl
  · exact lineEnd_feed c last

/-- The predicate holds of no line break. -/
def Unbreaking (p : Char → Bool) : Prop :=
  p '\n' = false ∧ p '\r' = false

instance (p : Char → Bool) : Decidable (Unbreaking p) :=
  inferInstanceAs (Decidable (_ ∧ _))

theorem Unbreaking.apply {p : Char → Bool} (unbreaking : Unbreaking p) {c : Char}
    (isBreak : isLineBreak c = true) : p c = false := by
  rcases isLineBreak_cases isBreak with rfl | rfl
  · exact unbreaking.1
  · exact unbreaking.2

section

variable {ending : List Char} (lineEnd : LineEnd ending)

include lineEnd

/-- Line breaks at the end do not count. -/
theorem dropLineBreaks_append (line : List Char) :
    dropLineBreaks (line ++ ending) = dropLineBreaks line :=
  dropEndWhile_append lineEnd line

/-- What holds of no line break holds of the same characters. -/
theorem getElem?_any_append {p : Char → Bool} (unbreaking : Unbreaking p) (text : List Char)
    (index : Nat) : (text ++ ending)[index]?.any p = text[index]?.any p := by
  by_cases inside : index < text.length
  · rw [List.getElem?_append_left inside]
  · rw [List.getElem?_append_right (Nat.le_of_not_lt inside),
      List.getElem?_eq_none (Nat.le_of_not_lt inside)]
    cases found : ending[index - text.length]? with
    | none => rfl
    | some c => exact unbreaking.apply (lineEnd c (List.mem_of_getElem? found))

theorem head?_any_append {p : Char → Bool} (unbreaking : Unbreaking p) (text : List Char) :
    (text ++ ending).head?.any p = text.head?.any p := by
  rw [List.head?_eq_getElem?, List.head?_eq_getElem?, getElem?_any_append lineEnd unbreaking]

/-- A character that is no line break is the first of the text, or not at all. -/
theorem head?_beq_append {c : Char} (other : isLineBreak c = false) (text : List Char) :
    ((text ++ ending).head? == some c) = (text.head? == some c) := by
  have unbreaking : Unbreaking (· == c) := by
    constructor
    · rw [beq_eq_false_iff_ne]
      rintro rfl
      cases other
    · rw [beq_eq_false_iff_ne]
      rintro rfl
      cases other
  have asAny : ∀ head : Option Char, (head == some c) = head.any (· == c) := by
    intro head
    cases head <;> rfl
  rw [asAny, asAny, head?_any_append lineEnd unbreaking]

theorem takeWhile_append_lineEnd {p : Char → Bool} (unbreaking : Unbreaking p)
    (text : List Char) : (text ++ ending).takeWhile p = text.takeWhile p := by
  induction text with
  | nil =>
      cases ending with
      | nil => rfl
      | cons c rest =>
          rw [List.nil_append, List.takeWhile_cons,
            unbreaking.apply (lineEnd c List.mem_cons_self)]
          rfl
  | cons c rest ih => rw [List.cons_append, List.takeWhile_cons, List.takeWhile_cons, ih]

end

/-! ### Carriage returns -/

/-- The characters with a carriage return before each line feed. -/
def addReturns (text : List Char) : List Char :=
  text.flatMap fun c => if c = '\n' then ['\r', '\n'] else [c]

/-- The text with each line feed replaced by a carriage return and a line feed. -/
def crlf (text : String) : String :=
  String.ofList (addReturns text.toList)

theorem addReturns_append (front back : List Char) :
    addReturns (front ++ back) = addReturns front ++ addReturns back :=
  List.flatMap_append

theorem addReturns_flatten (texts : List (List Char)) :
    addReturns texts.flatten = (texts.map addReturns).flatten := by
  induction texts with
  | nil => rfl
  | cons text rest ih => rw [List.flatten_cons, addReturns_append, ih]; rfl

theorem addReturns_unbroken {text : List Char} (unbroken : '\n' ∉ text) :
    addReturns text = text := by
  induction text with
  | nil => rfl
  | cons c rest ih =>
      rw [List.mem_cons, not_or] at unbroken
      show (if c = '\n' then ['\r', '\n'] else [c]) ++ addReturns rest = c :: rest
      rw [if_neg (Ne.symm unbroken.1), ih unbroken.2]
      rfl

theorem addReturns_line {body : List Char} (unbroken : '\n' ∉ body) :
    addReturns (body ++ ['\n']) = body ++ ['\r', '\n'] := by
  rw [addReturns_append, addReturns_unbroken unbroken]
  rfl

@[simp] theorem toList_crlf (text : String) : (crlf text).toList = addReturns text.toList :=
  String.toList_ofList

theorem crlf_append (front back : String) : crlf (front ++ back) = crlf front ++ crlf back := by
  apply String.toList_injective
  simp [addReturns_append]

theorem crlf_unbroken {text : String} (unbroken : '\n' ∉ text.toList) : crlf text = text := by
  apply String.toList_injective
  rw [toList_crlf, addReturns_unbroken unbroken]

/-- Lines are still lines when their ends are changed. -/
theorem Lined.addReturns {texts : List (List Char)} (lined : Lined texts) :
    Lined (texts.map Text.addReturns) := by
  induction lined with
  | nil => exact .nil
  | last nonempty unbroken =>
      rw [List.map_singleton, addReturns_unbroken unbroken]
      exact .last nonempty unbroken
  | @cons body rest unbroken _ ih =>
      have split : body ++ ['\r', '\n'] = (body ++ ['\r']) ++ ['\n'] := by simp
      rw [List.map_cons, addReturns_line unbroken, split]
      exact .cons (body ++ ['\r']) (by simp [unbroken]) ih

/-- **Changing the line ends changes each line by itself.** -/
theorem lines_crlf (text : List Char) : lines (addReturns text) = (lines text).map addReturns := by
  have lined := lined_lines text
  calc lines (addReturns text) = lines (addReturns (lines text).flatten) := by rw [flatten_lines]
    _ = lines ((lines text).map addReturns).flatten := by rw [addReturns_flatten]
    _ = (lines text).map addReturns := lines_flatten lined.addReturns

/-! ### A line feed at the end -/

/-- The text is empty or ends with a line feed, so that what follows it starts a line. -/
def EndsLine (text : List Char) : Prop :=
  text = [] ∨ text.getLast? = some '\n'

theorem Lined.append {front back : List (List Char)} (lined : Lined front)
    (ended : EndsLine front.flatten) (others : Lined back) : Lined (front ++ back) := by
  induction lined with
  | nil => exact others
  | @last line nonempty unbroken =>
      rw [List.flatten_singleton] at ended
      rcases ended with none | feed
      · exact absurd none nonempty
      · exact absurd (List.mem_of_getLast? feed) unbroken
  | @cons body rest unbroken _ ih =>
      refine .cons body unbroken (ih ?_)
      by_cases nothing : rest.flatten = []
      · exact .inl nothing
      · rcases ended with none | feed
        · simp at none
        · right
          have last := List.getLast?_eq_some_getLast nothing
          rw [List.flatten_cons, List.getLast?_append, last, Option.some_or] at feed
          rw [last, feed]

/-- **Texts that are put together at the end of a line keep their lines.** -/
theorem lines_append {front : List Char} (ended : EndsLine front) (back : List Char) :
    lines (front ++ back) = lines front ++ lines back := by
  have lined : Lined (lines front ++ lines back) :=
    (lined_lines front).append (by rw [flatten_lines]; exact ended) (lined_lines back)
  calc lines (front ++ back) = lines (lines front ++ lines back).flatten := by
        rw [List.flatten_append, flatten_lines, flatten_lines]
    _ = lines front ++ lines back := lines_flatten lined

theorem Lined.feed_last {texts : List (List Char)} (lined : Lined texts) (nonempty : texts ≠ [])
    (unended : texts.flatten.getLast? ≠ some '\n') :
    ∃ front line, texts = front ++ [line] ∧ Lined (front ++ [line ++ ['\n']]) := by
  induction lined with
  | nil => exact absurd rfl nonempty
  | @last line _ unbroken => exact ⟨[], line, rfl, .cons line unbroken .nil⟩
  | @cons body rest unbroken _ ih =>
      have more : rest ≠ [] := by
        rintro rfl
        exact unended (by simp)
      have unendedRest : rest.flatten.getLast? ≠ some '\n' := by
        intro ended
        refine unended ?_
        rw [List.flatten_cons, List.getLast?_append, ended]
        rfl
      obtain ⟨front, line, rfl, fed⟩ := ih more unendedRest
      exact ⟨(body ++ ['\n']) :: front, line, rfl, .cons body unbroken fed⟩

/-- **A line feed at the end of a text only ends its last line.** -/
theorem lines_append_feed_last {text : List Char} (nonempty : text ≠ [])
    (unended : text.getLast? ≠ some '\n') :
    ∃ front line, lines text = front ++ [line] ∧
      lines (text ++ ['\n']) = front ++ [line ++ ['\n']] := by
  have whole := flatten_lines text
  have hasLines : lines text ≠ [] := by
    intro none
    rw [none] at whole
    exact nonempty whole.symm
  obtain ⟨front, line, split, fed⟩ :=
    (lined_lines text).feed_last hasLines (by rw [whole]; exact unended)
  refine ⟨front, line, split, ?_⟩
  calc lines (text ++ ['\n']) = lines (front ++ [line ++ ['\n']]).flatten := by
        rw [← whole, split]
        simp
    _ = front ++ [line ++ ['\n']] := lines_flatten fed

end Marginalia.Text
