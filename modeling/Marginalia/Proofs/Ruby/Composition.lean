/-
**Sources put together at a neutral place.**

At the end of a line, outside every document, here document and literal and before the data, the
lexer is as fresh (`Lexer.eq_fresh`).  So what follows is read as a source of its own, only with its
lines further down (`run_moveDown`), and the events of two sources put together there are those of
the first and then those of the second.

The comments are, too, unless a run goes over the boundary, which takes a line comment on both sides
of it: `extractComments_append`.  The unfinished run at the boundary ends on the line of a line
comment (`Fits.growsOn`), and the first event behind it stands on a later line than the next.
-/

import Marginalia.Proofs.Comment.Transport
import Marginalia.Proofs.Ruby.Bracketing
import Marginalia.Proofs.Text.LineBreaks

namespace Marginalia

/-! ### Comments of two streams -/

/-- A fragment that comes outside a document is a line comment. -/
theorem Event.isDoc_eq_false {event : Event} (fragment : event.isFragment = true)
    (outside : event.continuesDoc = false) : event.isDoc = false := by
  cases event with
  | lineComment text line column => rfl
  | docBody text line => cases outside
  | _ => cases fragment

/-- What holds of the first and the last line of a growing comment. -/
def Aggregator.GrowsOn (Holds : Nat → Prop) (state : Aggregator) : Prop :=
  ∀ comment, state = growing comment → Holds comment.startLine ∧ Holds comment.endLine

namespace Aggregator

variable {Holds : Nat → Prop} {state : Aggregator} {event : Event}

theorem GrowsOn.idle : GrowsOn Holds {} := nofun

theorem GrowsOn.inBlock (comment : Comment) : GrowsOn Holds (.inBlock comment) := nofun

/-- A run that is growing starts and ends on lines of line comments. -/
theorem Pushed.growsOn {result : Aggregator × Option Comment} (pushed : Pushed event state result)
    (known : GrowsOn Holds state) (fits : event.continuesDoc = state.inDoc)
    (holds : event.isDoc = false → Holds event.line) : GrowsOn Holds result.1 := by
  induction pushed with
  | stray isEnd => exact .idle
  | opens isBegin => exact .inBlock _
  | starts fragment =>
      have here := holds (Event.isDoc_eq_false fragment fits)
      rintro _ ⟨⟩
      exact ⟨here, here⟩
  | @joins comment next =>
      have here := holds (Event.isDoc_eq_false next.1 fits)
      have start := (known comment rfl).1
      rintro _ ⟨⟩
      refine ⟨start, ?_⟩
      show Holds (max event.line comment.startLine)
      rcases Nat.le_total event.line comment.startLine with early | late
      · rw [Nat.max_eq_right early]
        exact start
      · rw [Nat.max_eq_left late]
        exact here
  | parts apart fresh ih => exact ih .idle fits
  | takes within => exact .inBlock _
  | closes isEnd => exact .idle

end Aggregator

/-- **In a stream whose events come where they may, a run that is growing starts and ends on lines
of line comments.** -/
theorem Fits.growsOn {Holds : Nat → Prop} {state : Aggregator} {events : List Event}
    (one : state.OneSlot) (known : state.GrowsOn Holds) (fits : Fits state.inDoc events)
    (holds : ∀ event ∈ events, event.isDoc = false → Holds event.line) :
    (state.pushAll events).1.GrowsOn Holds := by
  induction events generalizing state with
  | nil => exact known
  | cons event rest ih =>
      have next := (one.pushed event).growsOn known fits.1 (holds event List.mem_cons_self)
      have later : Fits (state.push event).1.inDoc rest := by
        rw [Aggregator.inDoc_push fits.1]
        exact fits.2
      exact ih (one.conserves_push event).oneSlot next later
        fun other member => holds other (List.mem_cons_of_mem event member)

/-- **Streams that no comment goes over are aggregated apart.** -/
theorem aggregate_append {front back : List Event}
    (outside : (({} : Aggregator).pushAll front).1.inDoc = false)
    (apart : ∀ comment, (({} : Aggregator).pushAll front).1 = .growing comment →
      ∀ event ∈ back.head?, ¬ event.Continues comment) :
    aggregate (front ++ back) = aggregate front ++ aggregate back := by
  have one := Aggregator.OneSlot.idle.pushAll front
  show ({} : Aggregator).drain (front ++ back) =
    (({} : Aggregator).pushAll front).2 ++ (({} : Aggregator).pushAll front).1.finish.2.toList ++
      ({} : Aggregator).drain back
  rw [Aggregator.drain_append, List.append_assoc]
  congr 1
  generalize (({} : Aggregator).pushAll front).1 = state at one outside apart
  cases one with
  | idle => rfl
  | growing comment => exact Aggregator.drain_growing (apart comment rfl)
  | inBlock comment => cases outside

namespace Ruby

open Marginalia.Text

/-! ### Reading further down -/

/-- The state behind a source. -/
def stateAfter (source : String) : Lexer :=
  (lexer.run lexer.initial 1 (lines source.toList)).1

/-- A line of the source yields a line comment. -/
def YieldsComment (source : String) (number : Nat) : Prop :=
  ∃ event ∈ lexSource source, event.isDoc = false ∧ event.line = number

instance (source : String) (number : Nat) : Decidable (YieldsComment source number) :=
  inferInstanceAs (Decidable (∃ event ∈ lexSource source, _))

/-- Outside everything that goes on over lines, the lexer is as fresh. -/
theorem Lexer.eq_fresh {state : Lexer} (neutral : state.inMultiline = false)
    (program : state.region ≠ .data) : state = {} := by
  have before := inData_eq_false program
  obtain ⟨inDoc, inData, heredocs, scopes⟩ := state
  simp only [inMultiline, Bool.or_eq_false_iff, HeredocQueue.isActive, Bool.not_eq_false',
    List.isEmpty_iff] at neutral
  obtain ⟨⟨rfl, rfl⟩, rfl⟩ := neutral
  cases before
  rfl

theorem readLine_moveDown (state : Lexer) (line : List Char) (number offset : Nat) :
    state.readLine line (number + offset) =
      ((state.readLine line number).1,
        (state.readLine line number).2.map (Event.moveDown offset)) := by
  simp only [Lexer.readLine, Lexer.readDoc, Lexer.readCode, Lexer.scanLine]
  split
  · rfl
  · split
    · rfl
    · split
      · split
        · rfl
        · rfl
      · split
        · rfl
        · split
          · rfl
          · cases (scan state.scopes state.heredocs [] 0 line).comment <;> rfl

/-- **Lines further down yield their events further down.** -/
theorem run_moveDown (state : Lexer) (number offset : Nat) (lines : List (List Char)) :
    lexer.run state (number + offset) lines =
      ((lexer.run state number lines).1,
        (lexer.run state number lines).2.map (Event.moveDown offset)) := by
  have passes : ∀ state line number, True → True →
      lexer.step state (id line) (number + offset) =
        ((lexer.step state line number).1,
          (lexer.step state line number).2.map (Event.moveDown offset)) :=
    fun state line number _ _ => readLine_moveDown state line number offset
  have moved := LineLexer.run_map (fun _ _ _ _ => trivial) passes state trivial number
    (fun _ (_ : _ ∈ lines) => trivial)
  rw [List.map_id] at moved
  exact moved

/-! ### Two sources -/

section TwoSources

variable {front : String} (ended : EndsLine front.toList)
  (neutral : (stateAfter front).inMultiline = false) (program : (stateAfter front).region ≠ .data)

include neutral program

/-- At a neutral place the next line is read as the first line of a source. -/
theorem stateAfter_eq_fresh : stateAfter front = {} :=
  Lexer.eq_fresh neutral program

include ended in
/-- The events of two sources put together are those of both. -/
theorem lexSource_append_eq (back : String) :
    lexSource (front ++ back) =
      lexSource front ++ (lexSource back).map (Event.moveDown (lines front.toList).length) := by
  have fresh : (lexer.run {} 1 (lines front.toList)).1 = {} :=
    stateAfter_eq_fresh neutral program
  show (lexer.run {} 1 (lines (front ++ back).toList)).2 = _
  rw [String.toList_append, lines_append ended, LineLexer.run_append, fresh, run_moveDown]
  rfl

/-- At a neutral place no document is open in the aggregator. -/
theorem inDoc_lexSource : (({} : Aggregator).pushAll (lexSource front)).1.inDoc = false := by
  have settled : ({} : Lexer).DocSettled := nofun
  have sameStart : ({} : Aggregator).inDoc = ({} : Lexer).inDoc := rfl
  have same := inDoc_run settled sameStart 1 (lines front.toList)
  have fresh : (lexer.run {} 1 (lines front.toList)).1 = {} :=
    stateAfter_eq_fresh neutral program
  rw [fresh] at same
  exact same

end TwoSources

theorem fits_lexSource (source : String) : Fits ({} : Aggregator).inDoc (lexSource source) :=
  (bracketed_lexSource source).fits

/-- Where a growing run of a source can start and end. -/
theorem growsOn_lexSource {Holds : Nat → Prop} (source : String)
    (holds : ∀ event ∈ lexSource source, event.isDoc = false → Holds event.line) :
    (({} : Aggregator).pushAll (lexSource source)).1.GrowsOn Holds :=
  Fits.growsOn .idle .idle (fits_lexSource source) holds

/-- **No run goes over a boundary** that has no line comment right before it or none right behind
it. -/
theorem run_ends_at_boundary {front back : String}
    (silent : ¬ YieldsComment front (lines front.toList).length ∨ ¬ YieldsComment back 1)
    {comment : Comment}
    (grows : (({} : Aggregator).pushAll (lexSource front)).1 = .growing comment) :
    ∀ event ∈ ((lexSource back).map (Event.moveDown (lines front.toList).length)).head?,
      ¬ event.Continues comment := by
  rintro event isFirst ⟨fragment, next, _⟩
  rw [List.head?_map] at isFirst
  obtain ⟨first, found, rfl⟩ := Option.map_eq_some_iff.mp isFirst
  obtain ⟨rest, whole⟩ := List.head?_eq_some_iff.mp found
  have member : first ∈ lexSource back := List.mem_of_mem_head? found
  have positive := (Lexer.numbered.run_numbered _ _ _ first member).1
  have within : ∀ event ∈ lexSource front, event.line ≤ (lines front.toList).length :=
    fun event inFront => by
      have bounds := (Lexer.numbered.run_numbered _ _ _ event inFront).2
      omega
  rw [Event.line_moveDown] at next
  rcases silent with silentFront | silentBack
  · -- The run ends before the last line of the first source.
    have early : Aggregator.GrowsOn (· < (lines front.toList).length) _ :=
      growsOn_lexSource front fun event inFront isComment => by
        have notLast : event.line ≠ (lines front.toList).length :=
          fun same => silentFront ⟨event, inFront, isComment, same⟩
        have bound := within event inFront
        omega
    have last := (early comment grows).2
    omega
  · -- The first event of the second source would be a line comment on its first line.
    have bounded : Aggregator.GrowsOn (· ≤ (lines front.toList).length) _ :=
      growsOn_lexSource front fun event inFront _ => within event inFront
    have last := (bounded comment grows).2
    have fits := fits_lexSource back
    rw [whole] at fits
    have isComment : first.isDoc = false := Event.isDoc_eq_false (by simpa using fragment) fits.1
    exact silentBack ⟨first, member, isComment, by omega⟩

/-- **Sources are read apart when they are put together at a neutral place**: at the end of a line,
outside everything that goes on over lines, and before the data.  Their events are those of the
first and then those of the second, further down; so are their comments, unless the last line of the
first and the first line of the second both yield a line comment. -/
theorem extractComments_append {front back : String} (ended : EndsLine front.toList)
    (neutral : (stateAfter front).inMultiline = false)
    (program : (stateAfter front).region ≠ .data) :
    lexSource (front ++ back) =
        lexSource front ++ (lexSource back).map (Event.moveDown (lines front.toList).length) ∧
      (¬ YieldsComment front (lines front.toList).length ∨ ¬ YieldsComment back 1 →
        extractComments (front ++ back) = extractComments front ++
          (extractComments back).map (Comment.moveDown (lines front.toList).length)) := by
  have events := lexSource_append_eq ended neutral program back
  refine ⟨events, fun silent => ?_⟩
  have outside := inDoc_lexSource neutral program
  have moved : aggregate ((lexSource back).map (Event.moveDown (lines front.toList).length)) =
      (extractComments back).map (Comment.moveDown (lines front.toList).length) :=
    aggregate_transport (fun _ _ => rfl) _ (lexSource back)
  rw [extractComments, events, aggregate_append outside fun comment => run_ends_at_boundary silent,
    moved]
  rfl

/-- A boundary behind a here document: the comment of its opening line is still unfinished there. -/
theorem extractComments_append_heredoc :
    EndsLine "x = <<E # a\n# no\nE\n".toList ∧
      (stateAfter "x = <<E # a\n# no\nE\n").inMultiline = false ∧
      (stateAfter "x = <<E # a\n# no\nE\n").region ≠ .data ∧
      ¬ YieldsComment "x = <<E # a\n# no\nE\n" 3 ∧
      extractComments ("x = <<E # a\n# no\nE\n" ++ "# b\n=begin\n") =
        [⟨"# a\n", 1, 1, 8⟩, ⟨"# b\n", 4, 4, 0⟩, ⟨"=begin\n", 5, 5, 0⟩] := by
  have ended : EndsLine "x = <<E # a\n# no\nE\n".toList := .inr (by decide +kernel)
  have neutral : (stateAfter "x = <<E # a\n# no\nE\n").inMultiline = false := by decide +kernel
  have program : (stateAfter "x = <<E # a\n# no\nE\n").region ≠ .data := by decide +kernel
  have silent : ¬ YieldsComment "x = <<E # a\n# no\nE\n" 3 := by decide +kernel
  have apart := (@extractComments_append _ "# b\n=begin\n" ended neutral program).2 (.inl silent)
  exact ⟨ended, neutral, program, silent, apart.trans (by decide +kernel)⟩

end Ruby

end Marginalia
