/-
**The lexer yields well-bracketed streams.**

While a document is open each line is one of its lines, and outside one no line can be taken for a
line of a document, because a document is only entered with no here document pending.  So the events
of a source are `Bracketed` (`bracketed_run`), their line numbers increase, and the aggregator is in
a document exactly when the lexer is (`inDoc_run`).

`lexSource_bracketed` puts this together: no event of a source reaches the aggregator out of place,
and no text of an event is lost.
-/

import Marginalia.Proofs.Comment.Bracketed
import Marginalia.Proofs.Lexer.Run
import Marginalia.Proofs.Ruby.Outcome

namespace Marginalia.Ruby

open Marginalia.Text

/-! ### One line -/

namespace Lexer

variable {state : Lexer} {line : List Char} {number : Nat} {result : Lexer × Option Event}

theorem Outcome.docSettled (outcome : state.Outcome line number result)
    (settled : state.DocSettled) : result.1.DocSettled := by
  intro inside
  cases outcome with
  | silent _ stays => exact absurd inside (Bool.eq_false_iff.mp stays)
  | comment _ stays _ => exact absurd inside (Bool.eq_false_iff.mp stays)
  | opening _ program quiet _ => exact ⟨program, quiet⟩
  | body _ _ => exact settled inside
  | closing _ _ => cases inside

/-- An event comes inside a document if the lexer is in one, and leaves it open if the lexer stays
in it. -/
theorem Outcome.fits (outcome : state.Outcome line number result) :
    ∀ event ∈ result.2, event.continuesDoc = state.inDoc ∧ event.leavesDoc = result.1.inDoc := by
  intro event yields
  cases outcome with
  | silent _ _ => cases yields
  | comment outside stays _ =>
      cases yields
      exact ⟨outside.symm, stays.symm⟩
  | opening outside _ _ _ =>
      cases yields
      exact ⟨outside.symm, rfl⟩
  | body inside _ =>
      cases yields
      exact ⟨inside.symm, inside.symm⟩
  | closing inside _ =>
      cases yields
      exact ⟨inside.symm, rfl⟩

/-- Without an event no document is open, before or after. -/
theorem Outcome.quiet (outcome : state.Outcome line number result) (silent : result.2 = none) :
    state.inDoc = false ∧ result.1.inDoc = false := by
  cases outcome with
  | silent outside stays => exact ⟨outside, stays⟩
  | _ => cases silent

/-- A line is scanned, or leaves the scopes as they are and is the place of its event. -/
theorem readLine_eq_scanLine_or (state : Lexer) (line : List Char) (number : Nat) :
    state.readLine line number = state.scanLine line number ∨
      (state.readLine line number).1.scopes = state.scopes ∧
        ∀ event ∈ (state.readLine line number).2, event.line = number := by
  unfold readLine
  split
  · exact .inr ⟨rfl, nofun⟩
  · split
    · exact .inr ⟨rfl, nofun⟩
    · split
      · right
        unfold readDoc
        split
        · exact ⟨rfl, by rintro _ ⟨⟩; rfl⟩
        · exact ⟨rfl, by rintro _ ⟨⟩; rfl⟩
      · unfold readCode
        split
        · exact .inr ⟨rfl, by rintro _ ⟨⟩; rfl⟩
        · split
          · exact .inr ⟨rfl, nofun⟩
          · exact .inl rfl

/-- Every event stands on the line that yields it. -/
theorem numbered : lexer.Numbered := by
  intro state line number event yields
  change event ∈ (state.readLine line number).2 at yields
  rcases state.readLine_eq_scanLine_or line number with scanned | ⟨_, place⟩
  · rw [scanned] at yields
    obtain ⟨comment, _, rfl⟩ := Option.map_eq_some_iff.mp yields
    rfl
  · exact place event yields

end Lexer

/-! ### All lines -/

/-- What follows the lines read so far: a well-bracketed stream, or the rest of a document. -/
theorem bracketed_run {last : Nat} {state : Lexer} (settled : state.DocSettled) (number : Nat)
    (lines : List (List Char)) (count : number + lines.length = last + 1) :
    (state.inDoc = false → Bracketed last (lexer.run state number lines).2) ∧
      (state.inDoc = true → DocRest last number (lexer.run state number lines).2) := by
  induction lines generalizing state number with
  | nil =>
      refine ⟨fun _ => .nil, fun _ => ?_⟩
      rw [List.length_nil, Nat.add_zero] at count
      rw [count]
      exact .nil
  | cons line rest ih =>
      have outcome := Lexer.readLine_outcome settled line number
      have later := ih (outcome.docSettled settled) (number + 1)
        (by rw [List.length_cons] at count; omega)
      rw [run_cons]
      generalize state.readLine line number = result at outcome later
      cases outcome with
      | silent outside stays =>
          exact ⟨fun _ => later.1 stays, fun inside => absurd inside (Bool.eq_false_iff.mp outside)⟩
      | comment outside stays split =>
          exact ⟨fun _ => .comment rfl (later.1 stays),
            fun inside => absurd inside (Bool.eq_false_iff.mp outside)⟩
      | opening outside program quiet marker =>
          exact ⟨fun _ => DocRest.bracketed rfl (later.2 rfl),
            fun inside => absurd inside (Bool.eq_false_iff.mp outside)⟩
      | body inside marker =>
          exact ⟨fun outside => absurd inside (Bool.eq_false_iff.mp outside),
            fun _ => .body rfl rfl (later.2 inside)⟩
      | closing inside marker =>
          exact ⟨fun outside => absurd inside (Bool.eq_false_iff.mp outside),
            fun _ => .closing rfl rfl (later.1 rfl)⟩

/-- **The aggregator is in a document exactly when the lexer is.** -/
theorem inDoc_run {state : Lexer} {aggregator : Aggregator} (settled : state.DocSettled)
    (same : aggregator.inDoc = state.inDoc) (number : Nat) (lines : List (List Char)) :
    (aggregator.pushAll (lexer.run state number lines).2).1.inDoc =
      (lexer.run state number lines).1.inDoc := by
  induction lines generalizing state aggregator number with
  | nil => exact same
  | cons line rest ih =>
      have outcome := Lexer.readLine_outcome settled line number
      have nextSettled := outcome.docSettled settled
      rw [run_cons]
      generalize state.readLine line number = result at outcome nextSettled
      obtain ⟨next, yields⟩ := result
      cases yields with
      | none =>
          obtain ⟨before, after⟩ := outcome.quiet rfl
          exact ih nextSettled (by rw [same, before, after]) (number + 1)
      | some event =>
          obtain ⟨comes, leaves⟩ := outcome.fits event rfl
          have pushed := Aggregator.inDoc_push (comes.trans same.symm)
          exact ih nextSettled (pushed.trans leaves) (number + 1)

/-! ### A whole source -/

/-- The events of a source are a well-bracketed stream. -/
theorem bracketed_lexSource (source : String) :
    Bracketed (lines source.toList).length (lexSource source) := by
  have settled : ({} : Lexer).DocSettled := nofun
  exact (bracketed_run settled 1 (lines source.toList) (Nat.add_comm 1 _)).1 rfl

/-- **The lexer yields well-bracketed streams.**  The events of a source are line comments and
documents, of which only the last may be left open, and then reaches to the last line; their line
numbers increase within the lines of the source.  So no event reaches the aggregator out of place,
and the texts of the comments are the texts of the events. -/
theorem lexSource_bracketed (source : String) :
    Bracketed (lines source.toList).length (lexSource source) ∧
      (lexSource source).Pairwise (fun first second => first.line < second.line) ∧
      (∀ event ∈ lexSource source,
        1 ≤ event.line ∧ event.line ≤ (lines source.toList).length) ∧
      (∀ front event back, lexSource source = front ++ event :: back →
        event.continuesDoc = (({} : Aggregator).pushAll front).1.inDoc) ∧
      Comment.joinTexts (extractComments source) = Event.joinTexts (lexSource source) := by
  have bracketed := bracketed_lexSource source
  refine ⟨bracketed, Lexer.numbered.run_increasing _ _ _, ?_, ?_, ?_⟩
  · intro event member
    have bounds := Lexer.numbered.run_numbered _ _ _ event member
    omega
  · intro front event back split
    have fits : Fits ({} : Aggregator).inDoc (lexSource source) := bracketed.fits
    rw [split] at fits
    exact fits.continuesDoc_eq
  · have drained := Fits.text_drain Aggregator.OneSlot.idle bracketed.fits
    rw [Aggregator.unfinished_idle, Comment.joinTexts_nil, String.empty_append] at drained
    exact drained

/-- A here document that holds an opening line, and a document that is left open behind it. -/
theorem lexSource_bracketed_heredoc :
    lexSource "a = <<E # x\n=begin\nE\n=begin\nb\n" =
        [.lineComment "# x\n" 1 8] ++ .docBegin "=begin\n" 4 0 :: [.docBody "b\n" 5] ∧
      (Event.docBegin "=begin\n" 4 0).line ≤ 5 ∧
      (Event.docBegin "=begin\n" 4 0).continuesDoc =
        (({} : Aggregator).pushAll [.lineComment "# x\n" 1 8]).1.inDoc ∧
      Comment.joinTexts (extractComments "a = <<E # x\n=begin\nE\n=begin\nb\n") =
        "# x\n=begin\nb\n" := by
  obtain ⟨_, _, bounds, fits, texts⟩ := lexSource_bracketed "a = <<E # x\n=begin\nE\n=begin\nb\n"
  have events : lexSource "a = <<E # x\n=begin\nE\n=begin\nb\n" =
      [.lineComment "# x\n" 1 8] ++ .docBegin "=begin\n" 4 0 :: [.docBody "b\n" 5] := by
    decide +kernel
  refine ⟨events, ?_, fits _ _ _ events, ?_⟩
  · exact (bounds _ (by simp [events])).2
  · rw [texts, events]
    decide +kernel

end Marginalia.Ruby
