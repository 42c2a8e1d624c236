/-
**Which line ends which here document.**

The queue of here documents is driven by two kinds of calls: one announces a here document, the other
reads a line and answers whether it ends the one at the front.

* `run_eq` — **first announced, first ended.**  After any calls, what has been announced is what has
  been ended, in order, followed by the queue.  So the next line is held against the here document
  whose place among the announced ones is the number of those that have been ended.
* `Heredoc.Terminates` — the line is the identifier, with white space before it only if the here
  document allows indentation.  Without indentation this is what a line is held against
  (`endsAt_exact_iff`).  With indentation white space is trimmed off behind the identifier as well, so
  a line is also taken for the end if white space trails the identifier (`Heredoc.Trailed`), and
  never if white space belongs to the identifier (`endsAt_indented_iff`).
-/

import Marginalia.Proofs.Ruby.HeredocEnd

namespace Marginalia.Ruby

open Marginalia.Text

/-! ### One line against one here document -/

namespace Heredoc

/-- The line is the identifier and nothing else, but for white space before it if the here document
allows indentation. -/
def Terminates (heredoc : Heredoc) (line : List Char) : Prop :=
  ∃ indent, dropLineBreaks line = indent ++ heredoc.identifier.toList ∧ Blank indent ∧
    (indent ≠ [] → heredoc.allowIndent = true)

/-- White space follows the identifier on the line, and nothing but white space precedes it. -/
def Trailed (heredoc : Heredoc) (line : List Char) : Prop :=
  ∃ indent trail, dropLineBreaks line = indent ++ heredoc.identifier.toList ++ trail ∧
    Blank indent ∧ Blank trail ∧ trail ≠ []

variable {heredoc : Heredoc} {line : List Char}

/-- **Without indentation the line has to be the identifier.** -/
theorem endsAt_exact_iff (exact : heredoc.allowIndent = false) :
    heredoc.endsAt line = true ↔ heredoc.Terminates line := by
  rw [endsAt_iff, exact, if_neg Bool.false_ne_true]
  constructor
  · intro same
    exact ⟨[], same, blank_nil, fun some => absurd rfl some⟩
  · rintro ⟨indent, split, _, allowed⟩
    have none : indent = [] := by
      refine Classical.byContradiction fun some => ?_
      rw [exact] at allowed
      exact Bool.false_ne_true (allowed some)
    rw [split, none, List.nil_append]

/-- An identifier that white space may stand around can end if it has none at its own ends. -/
theorem endable_indented (indented : heredoc.allowIndent = true) :
    heredoc.endable = true ↔
      heredoc.identifier.toList.head?.any isSpace = false ∧
        heredoc.identifier.toList.getLast?.any isSpace = false := by
  rw [endable, if_pos indented, Bool.and_eq_true, Bool.not_eq_true', Bool.not_eq_true']

/-- **With indentation white space on both sides is trimmed off**, and none of it can belong to the
identifier. -/
theorem endsAt_indented_iff (indented : heredoc.allowIndent = true) :
    heredoc.endsAt line = true ↔
      heredoc.endable = true ∧ (heredoc.Terminates line ∨ heredoc.Trailed line) := by
  rw [endsAt_iff, if_pos indented, trim_eq_iff, endable_indented indented]
  refine and_congr_right fun _ => ⟨?_, ?_⟩
  · rintro ⟨indent, trail, split, before, behind⟩
    by_cases nothing : trail = []
    · rw [nothing, List.append_nil] at split
      exact .inl ⟨indent, split, before, fun _ => indented⟩
    · exact .inr ⟨indent, trail, split, before, behind, nothing⟩
  · rintro (⟨indent, split, before, _⟩ | ⟨indent, trail, split, before, behind, _⟩)
    · exact ⟨indent, [], by rw [split, List.append_nil], before, blank_nil⟩
    · exact ⟨indent, trail, split, before, behind⟩

/-- **The lines that end a here document**: those that are its identifier as it allows, unless the
identifier has white space at its ends where white space is trimmed off, and there also those on
which white space trails the identifier. -/
theorem endsAt_iff_terminates :
    heredoc.endsAt line = true ↔
      (heredoc.allowIndent = true → heredoc.endable = true) ∧
        (heredoc.Terminates line ∨ heredoc.allowIndent = true ∧ heredoc.Trailed line) := by
  by_cases indented : heredoc.allowIndent = true
  · rw [endsAt_indented_iff indented]
    simp only [indented, true_and, true_implies]
  · rw [endsAt_exact_iff (Bool.eq_false_iff.mpr indented)]
    simp [indented]

/-- A line on which white space trails the identifier is not the identifier. -/
theorem not_terminates_of_trailed (indented : heredoc.allowIndent = true)
    (ends : heredoc.endable = true) (named : heredoc.identifier.toList ≠ [])
    (trailed : heredoc.Trailed line) : ¬ heredoc.Terminates line := by
  rintro ⟨indent, split, _, _⟩
  obtain ⟨before, trail, whole, _, behind, nonempty⟩ := trailed
  -- The line would end in the last character of the identifier and in white space.
  have lastName := List.getLast?_eq_some_getLast named
  have lastTrail := List.getLast?_eq_some_getLast nonempty
  have same : some (heredoc.identifier.toList.getLast named) = some (trail.getLast nonempty) := by
    calc some (heredoc.identifier.toList.getLast named)
        = (dropLineBreaks line).getLast? := by
          rw [split, List.getLast?_append, lastName, Option.some_or]
      _ = some (trail.getLast nonempty) := by
          rw [whole, List.getLast?_append, lastTrail, Option.some_or]
  have isWhite : isSpace (trail.getLast nonempty) = true := behind _ (List.getLast_mem nonempty)
  have noSpace := ((endable_indented indented).mp ends).2
  rw [lastName, same, Option.any_some, isWhite] at noSpace
  cases noSpace

/-- The line is judged otherwise than by its being the identifier as the here document allows: white
space is missed that belongs to the identifier, or overlooked that trails it. -/
def Misjudges (heredoc : Heredoc) (line : List Char) : Prop :=
  heredoc.allowIndent = true ∧
    (heredoc.endable = false ∧ heredoc.Terminates line ∨
      heredoc.endable = true ∧ heredoc.identifier.toList ≠ [] ∧ heredoc.Trailed line)

/-- Behind an empty identifier trailing white space is as good as indentation. -/
theorem terminates_of_empty (indented : heredoc.allowIndent = true)
    (unnamed : heredoc.identifier.toList = []) (trailed : heredoc.Trailed line) :
    heredoc.Terminates line := by
  obtain ⟨indent, trail, split, before, behind, _⟩ := trailed
  refine ⟨indent ++ trail, ?_, fun c member => ?_, fun _ => indented⟩
  · rw [split, unnamed, List.append_nil, List.append_nil]
  · exact (List.mem_append.mp member).elim (before c) (behind c)

/-- **A line is judged right but for the two cases.** -/
theorem endsAt_agrees_iff :
    (heredoc.endsAt line = true ↔ heredoc.Terminates line) ↔ ¬ heredoc.Misjudges line := by
  by_cases indented : heredoc.allowIndent = true
  · rw [endsAt_indented_iff indented, Misjudges]
    by_cases ends : heredoc.endable = true
    · -- What trails the identifier is no part of it, unless there is nothing to trail.
      have trails : (heredoc.Trailed line → heredoc.Terminates line) ↔
          ¬ (heredoc.identifier.toList ≠ [] ∧ heredoc.Trailed line) := by
        constructor
        · rintro within ⟨named, trailed⟩
          exact not_terminates_of_trailed indented ends named trailed (within trailed)
        · intro never trailed
          refine terminates_of_empty indented ?_ trailed
          exact Classical.byContradiction fun named => never ⟨named, trailed⟩
      grind
    · grind
  · have exact : heredoc.allowIndent = false := Bool.eq_false_iff.mpr indented
    rw [endsAt_exact_iff exact, Misjudges, exact]
    simp

end Heredoc

/-! ### Calls in any order -/

namespace HeredocQueue

/-- The calls that drive the queue. -/
inductive Call where
  | push (heredoc : Heredoc)
  | readLine (line : List Char)
deriving Repr, DecidableEq

/-- The here documents that the calls announce, in order. -/
def announced (calls : List Call) : List Heredoc :=
  calls.filterMap fun
    | .push heredoc => some heredoc
    | .readLine _ => none

/-- The queue after a sequence of calls, and the answers for the lines. -/
def run (queue : HeredocQueue) : List Call → HeredocQueue × List Bool
  | [] => (queue, [])
  | .push heredoc :: rest => run (queue.push heredoc) rest
  | .readLine line :: rest =>
    let (next, answer) := queue.readLine line
    let (last, answers) := run next rest
    (last, answer :: answers)

/-- The number of lines that have ended a here document. -/
def ended (calls : List Call) : Nat :=
  (run [] calls).2.count true

/-- A line ends the here document at the front, which leaves the queue, or changes nothing. -/
theorem readLine_cases (queue : HeredocQueue) (line : List Char) :
    (∃ heredoc rest, queue = heredoc :: rest ∧ heredoc.endsAt line = true ∧
        queue.readLine line = (rest, true)) ∨
      (∀ heredoc, queue.head? = some heredoc → heredoc.endsAt line = false) ∧
        queue.readLine line = (queue, false) := by
  cases queue with
  | nil => exact .inr ⟨nofun, rfl⟩
  | cons heredoc rest =>
      by_cases ends : heredoc.endsAt line = true
      · exact .inl ⟨heredoc, rest, rfl, ends, by rw [readLine, if_pos ends]⟩
      · refine .inr ⟨fun front same => ?_, by rw [readLine, if_neg ends]⟩
        rw [← Option.some.inj same]
        exact Bool.eq_false_iff.mpr ends

theorem readLine_answer (queue : HeredocQueue) (line : List Char) :
    (queue.readLine line).2 = true ↔
      ∃ heredoc, queue.head? = some heredoc ∧ heredoc.endsAt line = true := by
  rcases readLine_cases queue line with ⟨heredoc, rest, rfl, ends, read⟩ | ⟨others, read⟩
  · rw [read]
    exact ⟨fun _ => ⟨heredoc, rfl, ends⟩, fun _ => rfl⟩
  · rw [read]
    refine ⟨nofun, ?_⟩
    rintro ⟨heredoc, front, ends⟩
    rw [others heredoc front] at ends
    exact ends

/-- **First announced, first ended.**  The here documents that were pending and those that the calls
announce are the ones that the calls end, in order, followed by the queue that is left. -/
theorem run_eq (queue : HeredocQueue) (calls : List Call) :
    ∃ taken, taken.length = (run queue calls).2.count true ∧
      queue ++ announced calls = taken ++ (run queue calls).1 := by
  induction calls generalizing queue with
  | nil => exact ⟨[], rfl, List.append_nil queue⟩
  | cons call rest ih =>
      cases call with
      | push heredoc =>
          obtain ⟨taken, length, split⟩ := ih (queue.push heredoc)
          refine ⟨taken, length, ?_⟩
          rw [push, List.append_assoc] at split
          exact split
      | readLine line =>
          rcases readLine_cases queue line with ⟨heredoc, others, rfl, _, read⟩ | ⟨_, read⟩
          · obtain ⟨taken, length, split⟩ := ih others
            refine ⟨heredoc :: taken, ?_, ?_⟩
            · rw [run, read, List.count_cons_self, List.length_cons, length]
            · rw [run, read, List.cons_append, List.cons_append]
              exact congrArg (heredoc :: ·) split
          · obtain ⟨taken, length, split⟩ := ih queue
            refine ⟨taken, ?_, ?_⟩
            · rw [run, read, List.count_cons_of_ne Bool.false_ne_true, length]
            · rw [run, read]
              exact split

end HeredocQueue

/-- **Here documents end in the order in which they are announced, at the lines that hold their
identifiers.**  After any calls on an empty queue, what has been announced is what has been ended, as
many as there were lines that answered so, followed by the queue.  The next line answers that it ends
a here document if and only if one is pending, which is the next one in that order, and the line is its
identifier as it allows; but where white space may stand before the identifier, a line with white space
behind it counts too, and an identifier with white space at its own ends is never met.  Only then does
the answer differ from the line's being the identifier. -/
theorem HeredocQueue.readLine_terminator (calls : List Call) (line : List Char) :
    let queue := (run [] calls).1
    let answer := (queue.readLine line).2
    (∃ taken, taken.length = ended calls ∧ announced calls = taken ++ queue) ∧
      (answer = true ↔ ∃ heredoc, (announced calls)[ended calls]? = some heredoc ∧
        (heredoc.allowIndent = true → heredoc.endable = true) ∧
        (heredoc.Terminates line ∨ heredoc.allowIndent = true ∧ heredoc.Trailed line)) ∧
      ((answer = true ↔ ∃ heredoc, (announced calls)[ended calls]? = some heredoc ∧
          heredoc.Terminates line) ↔
        ∀ heredoc, (announced calls)[ended calls]? = some heredoc → ¬ heredoc.Misjudges line) := by
  intro queue answer
  obtain ⟨taken, length, split⟩ := run_eq [] calls
  rw [List.nil_append] at split
  have next : (announced calls)[ended calls]? = queue.head? := by
    rw [split, ended, ← length, List.getElem?_append_right (Nat.le_refl _), Nat.sub_self,
      List.head?_eq_getElem?]
  refine ⟨⟨taken, length, split⟩, ?_, ?_⟩
  · rw [next, readLine_answer]
    simp only [Heredoc.endsAt_iff_terminates]
  · rw [next, readLine_answer]
    cases queue.head? with
    | none => simp
    | some heredoc =>
        simp only [Option.some.injEq, exists_eq_left', forall_eq']
        exact Heredoc.endsAt_agrees_iff

/-- **White space behind the identifier is overlooked, and white space in it is missed**, where
indentation is allowed. -/
theorem HeredocQueue.readLine_misjudged :
    (readLine [⟨"EOF", true⟩] "EOF \n".toList = ([], true) ∧
        ¬ (Heredoc.mk "EOF" true).Terminates "EOF \n".toList) ∧
      readLine [⟨"E ", true⟩] "E \n".toList = ([⟨"E ", true⟩], false) ∧
        (Heredoc.mk "E " true).Terminates "E \n".toList := by
  refine ⟨⟨by decide +kernel, ?_⟩, by decide +kernel, [], by decide +kernel, blank_nil, nofun⟩
  refine Heredoc.not_terminates_of_trailed rfl (by decide +kernel) (by decide) ?_
  exact ⟨[], [' '], by decide +kernel, blank_nil, by decide, by decide⟩

end Marginalia.Ruby
