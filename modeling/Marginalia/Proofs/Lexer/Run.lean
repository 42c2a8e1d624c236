/-
**Runs of a line lexer.**

What holds of every lexer that reads a source line by line:

* `run_append`: reading two stretches of lines is reading the first and then the second;
* `mem_run_iff`: an event of a run is the event of one of its lines;
* `run_numbered`, `run_increasing`: if each event stands on the line that yields it, the events of a
  run stand on its lines, in increasing order;
* `run_map`: a change of the lines and of their numbers that each step passes on to its event is
  passed on by a run to all its events;
* `run_agrees`: two lexers whose steps yield the same events do so over a run.
-/

import Marginalia.Lexer.LineLexer

namespace Marginalia.LineLexer

variable {State : Type} {lexer : LineLexer State}

theorem run_append (lexer : LineLexer State) (state : State) (number : Nat)
    (front back : List (List Char)) :
    lexer.run state number (front ++ back) =
      ((lexer.run (lexer.run state number front).1 (number + front.length) back).1,
        (lexer.run state number front).2 ++
          (lexer.run (lexer.run state number front).1 (number + front.length) back).2) := by
  induction front generalizing state number with
  | nil => rfl
  | cons line rest ih =>
      have count : number + (line :: rest).length = number + 1 + rest.length := by
        rw [List.length_cons]
        omega
      simp only [List.cons_append, run, ih, count, List.append_assoc]

/-- **An event of a run is the event of one of its lines**, read in the state that the lines before
it lead to. -/
theorem mem_run_iff {state : State} {number : Nat} {lines : List (List Char)} {event : Event} :
    event ∈ (lexer.run state number lines).2 ↔
      ∃ front line back, lines = front ++ line :: back ∧
        event ∈ (lexer.step (lexer.run state number front).1 line (number + front.length)).2 := by
  constructor
  · intro member
    induction lines generalizing state number with
    | nil => cases member
    | cons line rest ih =>
        rcases List.mem_append.mp member with here | later
        · exact ⟨[], line, rest, rfl, Option.mem_toList.mp here⟩
        · obtain ⟨front, found, back, rfl, yields⟩ := ih later
          refine ⟨line :: front, found, back, rfl, ?_⟩
          have count : number + (line :: front).length = number + 1 + front.length := by
            rw [List.length_cons]
            omega
          rw [count]
          exact yields
  · rintro ⟨front, line, back, rfl, yields⟩
    rw [run_append]
    exact List.mem_append_right _ (List.mem_append_left _ (Option.mem_toList.mpr yields))

/-! ### Line numbers -/

/-- Each event stands on the line that yields it. -/
def Numbered (lexer : LineLexer State) : Prop :=
  ∀ state line number, ∀ event ∈ (lexer.step state line number).2, event.line = number

/-- The events of a run stand on its lines. -/
theorem Numbered.run_numbered (numbered : lexer.Numbered) (state : State) (number : Nat)
    (lines : List (List Char)) :
    ∀ event ∈ (lexer.run state number lines).2,
      number ≤ event.line ∧ event.line < number + lines.length := by
  induction lines generalizing state number with
  | nil => simp [run]
  | cons line rest ih =>
      intro event member
      rw [List.length_cons]
      rcases List.mem_append.mp member with here | later
      · have place := numbered state line number event (Option.mem_toList.mp here)
        omega
      · have bounds := ih (lexer.step state line number).1 (number + 1) event later
        omega

/-- **The line numbers of a run increase.** -/
theorem Numbered.run_increasing (numbered : lexer.Numbered) (state : State) (number : Nat)
    (lines : List (List Char)) :
    (lexer.run state number lines).2.Pairwise fun first second => first.line < second.line := by
  induction lines generalizing state number with
  | nil => exact .nil
  | cons line rest ih =>
      have alone : (lexer.step state line number).2.toList.Pairwise
          fun first second => first.line < second.line := by
        cases (lexer.step state line number).2 with
        | none => exact .nil
        | some event => exact List.pairwise_singleton _ event
      refine List.pairwise_append.mpr ⟨alone, ih _ _, ?_⟩
      intro first isFirst second isLater
      have place := numbered state line number first (Option.mem_toList.mp isFirst)
      have bounds := numbered.run_numbered _ (number + 1) rest second isLater
      omega

/-! ### Changes of the lines -/

/-- **A change that each step passes on is passed on by a run.**  The lines are edited and moved
down, each event changes with its line, and the states stay the same; `Inv` is what the steps need
of a state, and `Fine` of a line. -/
theorem run_map {Inv : State → Prop} {Fine : List Char → Prop} {edit : List Char → List Char}
    {change : Event → Event} {offset : Nat}
    (keeps : ∀ state line number, Inv state → Inv (lexer.step state line number).1)
    (passes : ∀ state line number, Inv state → Fine line →
      lexer.step state (edit line) (number + offset) =
        ((lexer.step state line number).1, (lexer.step state line number).2.map change))
    (state : State) (inv : Inv state) (number : Nat) {lines : List (List Char)}
    (fine : ∀ line ∈ lines, Fine line) :
    lexer.run state (number + offset) (lines.map edit) =
      ((lexer.run state number lines).1, (lexer.run state number lines).2.map change) := by
  induction lines generalizing state number with
  | nil => rfl
  | cons line rest ih =>
      have first := passes state line number inv (fine line List.mem_cons_self)
      have later := ih _ (keeps state line number inv) (number + 1)
        fun other member => fine other (List.mem_cons_of_mem line member)
      have next : number + offset + 1 = number + 1 + offset := by omega
      simp only [List.map_cons, run, first, next, later, List.map_append]
      cases (lexer.step state line number).2 <;> rfl

/-! ### Two lexers -/

/-- **Lexers whose steps yield the same events run alike.**  `Related` is what the steps keep of the
two states, and `Fine` what they need of a line. -/
theorem run_agrees {Other : Type} {other : LineLexer Other} (Related : State → Other → Prop)
    {Fine : List Char → Prop}
    (agrees : ∀ state facing line number, Related state facing → Fine line →
      Related (lexer.step state line number).1 (other.step facing line number).1 ∧
        (lexer.step state line number).2 = (other.step facing line number).2)
    {state : State} {facing : Other} (related : Related state facing) (number : Nat)
    {lines : List (List Char)} (fine : ∀ line ∈ lines, Fine line) :
    (lexer.run state number lines).2 = (other.run facing number lines).2 := by
  induction lines generalizing state facing number with
  | nil => rfl
  | cons line rest ih =>
      obtain ⟨stays, same⟩ := agrees state facing line number related (fine line List.mem_cons_self)
      have later := ih stays (number + 1) fun next member =>
        fine next (List.mem_cons_of_mem line member)
      simp only [run, same, later]

end Marginalia.LineLexer
