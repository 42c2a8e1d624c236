/-
**What a sequence of calls does to an aggregator.**

An aggregator has two places for an unfinished comment, and `finish` empties only one of them.  No
calls from a fresh state on ever fill both (`OneSlot.run`), so nothing is left behind: `finish` hands
out the unfinished comment if there is one, and the next calls find a fresh state
(`run_finish_fresh`).

Lines are counted by machine words, where the line behind that of the greatest word would be the line
of number zero.  As long as no event has the greatest word as its line, it does not matter: the places
for unfinished comments only hold lines and columns of events (`Counted.run`), and which fragments are
taken to follow each other is the same with words as with numbers (`accepts_run_eq_acceptsWord`).
-/

import Marginalia.Proofs.Comment.Conservation

namespace Marginalia.Aggregator

/-- The state after a sequence of calls, and the answer of each call. -/
def run (state : Aggregator) : List Call → Aggregator × List (Option Comment)
  | [] => (state, [])
  | call :: rest =>
    let (next, answer) := state.call call
    let (last, answers) := next.run rest
    (last, answer :: answers)

theorem run_append (state : Aggregator) (front back : List Call) :
    state.run (front ++ back) =
      (((state.run front).1.run back).1, (state.run front).2 ++ ((state.run front).1.run back).2) := by
  induction front generalizing state with
  | nil => rfl
  | cons call rest ih => simp only [List.cons_append, run, ih]

/-- Taking in a list of events is the same as one call for each of them. -/
theorem run_map_push (state : Aggregator) (events : List Event) :
    (state.run (events.map .push)).1 = (state.pushAll events).1 ∧
      (state.run (events.map .push)).2.filterMap id = (state.pushAll events).2 := by
  induction events generalizing state with
  | nil => exact ⟨rfl, rfl⟩
  | cons event rest ih =>
      obtain ⟨sameState, sameComments⟩ := ih (state.push event).1
      refine ⟨sameState, ?_⟩
      show ((state.push event).2 :: ((state.push event).1.run (rest.map .push)).2).filterMap id =
        (state.push event).2.toList ++ ((state.push event).1.pushAll rest).2
      rw [← sameComments]
      cases (state.push event).2 <;> rfl

/-! ### One slot at a time -/

/-- **One call keeps one of the two places empty.** -/
theorem OneSlot.call {state : Aggregator} (one : OneSlot state) (call : Call) :
    OneSlot (state.call call).1 := by
  cases call with
  | push event => exact (one.conserves_push event).oneSlot
  | finish => exact one.conserves_finish.oneSlot
  | reset => exact .idle

/-- **So do any number of calls.** -/
theorem OneSlot.run {state : Aggregator} (one : OneSlot state) (calls : List Call) :
    OneSlot (state.run calls).1 := by
  induction calls generalizing state with
  | nil => exact one
  | cons call rest ih => exact ih (one.call call)

theorem OneSlot.isConsistent {state : Aggregator} (one : OneSlot state) :
    state.isConsistent = true := by
  cases one with
  | idle => rfl
  | growing comment => rfl
  | inBlock comment => rfl

/-- A comment counts as pending if it is in one of the two places. -/
theorem hasPending_eq (state : Aggregator) : state.hasPending = !state.unfinished.isEmpty := by
  obtain ⟨⟨pending⟩, block⟩ := state
  cases pending with
  | none => cases block <;> rfl
  | some comment => rfl

/-- **Finishing drains the machine.**  After any calls in any order, the two places for an unfinished
comment are not both taken.  Finishing then hands out a comment if and only if one was pending, that
comment was all that was pending, and nothing is pending any more: whatever is called next, states and
answers are those of a fresh aggregator. -/
theorem run_finish_fresh (calls : List Call) :
    let state := (({} : Aggregator).run calls).1
    state.isConsistent = true ∧
      (state.finish.2.isSome = true ↔ state.hasPending = true) ∧
      (∀ comment, state.finish.2 = some comment → state.unfinished = [comment]) ∧
      state.finish.1.hasPending = false ∧
      ∀ further, state.finish.1.run further = ({} : Aggregator).run further := by
  intro state
  have one : OneSlot state := OneSlot.idle.run calls
  obtain ⟨fresh, handedOut⟩ := one.finish_eq
  refine ⟨one.isConsistent, ?_, ?_, ?_, ?_⟩
  · rw [hasPending_eq, ← handedOut]
    cases state.finish.2 <;> simp
  · intro comment answer
    rw [← handedOut, answer]
    rfl
  · rw [fresh]
    rfl
  · intro further
    rw [fresh]

end Marginalia.Aggregator

/-! ### Counting lines by machine words -/

namespace Marginalia

/-- Whether a fragment continues the growing comment, if lines and columns are machine words: behind
the greatest word comes zero. -/
def LineRun.acceptsWord (run : LineRun) (line column : UInt64) : Bool :=
  run.pending.any fun comment =>
    .ofNat comment.endLine + 1 == line && .ofNat comment.column == column

/-- Lines and columns of a comment are words, and there is a word behind its lines. -/
structure Comment.Counted (comment : Comment) : Prop where
  startLine : comment.startLine + 1 < UInt64.size
  endLine : comment.endLine + 1 < UInt64.size
  column : comment.column < UInt64.size

/-- The line and the column of an event are words, and there is a word behind its line. -/
structure Event.Counted (event : Event) : Prop where
  line : event.line + 1 < UInt64.size
  column : event.column < UInt64.size

theorem Event.Counted.ofFragment {event : Event} (counted : event.Counted) :
    (Comment.ofFragment event.text event.line event.column).Counted :=
  ⟨counted.line, counted.line, counted.column⟩

theorem Comment.Counted.extend {comment : Comment} (counted : comment.Counted) {event : Event}
    (added : event.Counted) : (comment.extend event.text event.line).Counted where
  startLine := counted.startLine
  endLine := by
    show max event.line comment.startLine + 1 < UInt64.size
    rw [← Nat.add_max_add_right]
    exact Nat.max_lt.mpr ⟨added.line, counted.startLine⟩
  column := counted.column

/-- Numbers that are words are equal if and only if the words are. -/
theorem beq_eq_beq_ofNat {one other : Nat} (oneIsWord : one < UInt64.size)
    (otherIsWord : other < UInt64.size) :
    (one == other) = (UInt64.ofNat one == UInt64.ofNat other) := by
  rw [Bool.eq_iff_iff, beq_iff_eq, beq_iff_eq]
  refine ⟨congrArg UInt64.ofNat, fun same => ?_⟩
  rw [← UInt64.toNat_ofNat_of_lt' oneIsWord, same, UInt64.toNat_ofNat_of_lt' otherIsWord]

/-- **Words count like numbers** up to the last word but one. -/
theorem LineRun.accepts_eq_acceptsWord {run : LineRun}
    (counted : ∀ comment ∈ run.pending, comment.Counted) {line column : Nat}
    (lineIsWord : line < UInt64.size) (columnIsWord : column < UInt64.size) :
    run.accepts line column = run.acceptsWord (.ofNat line) (.ofNat column) := by
  cases pending : run.pending with
  | none => simp [accepts, acceptsWord, pending]
  | some comment =>
      obtain ⟨-, endLine, isWord⟩ := counted comment pending
      have next : UInt64.ofNat (comment.endLine + 1) = .ofNat comment.endLine + 1 :=
        UInt64.ofNat_add comment.endLine 1
      have sameLine := beq_eq_beq_ofNat endLine lineIsWord
      have sameColumn := beq_eq_beq_ofNat isWord columnIsWord
      rw [next] at sameLine
      simp only [accepts, acceptsWord, pending, Option.any_some, sameLine, sameColumn]

namespace Aggregator

/-- The unfinished comments have lines and columns that are words. -/
def Counted (state : Aggregator) : Prop :=
  ∀ comment ∈ state.unfinished, comment.Counted

/-- Every event that is taken in has a line and a column that are words, and a word behind its
line. -/
def Call.Counted : Call → Prop
  | .push event => event.Counted
  | .finish | .reset => True

theorem Pushed.counted {event : Event} {state : Aggregator} {result : Aggregator × Option Comment}
    (pushed : Pushed event state result) (added : event.Counted) (counted : state.Counted) :
    result.1.Counted := by
  induction pushed with
  | stray => exact counted
  | opens => exact List.forall_mem_singleton.mpr added.ofFragment
  | starts => exact List.forall_mem_singleton.mpr added.ofFragment
  | joins => exact List.forall_mem_singleton.mpr ((counted _ List.mem_cons_self).extend added)
  | parts apart fresh ih => exact ih (List.forall_mem_nil _)
  | takes => exact List.forall_mem_singleton.mpr ((counted _ List.mem_cons_self).extend added)
  | closes => exact List.forall_mem_nil _

/-- **One call keeps lines and columns words.** -/
theorem Counted.call {state : Aggregator} (one : OneSlot state) (counted : state.Counted)
    {call : Call} (added : call.Counted) : (state.call call).1.Counted := by
  cases call with
  | push event => exact (one.pushed event).counted added counted
  | finish =>
      show state.finish.1.Counted
      rw [one.finish_eq.1]
      exact List.forall_mem_nil _
  | reset => exact List.forall_mem_nil _

/-- **So do any number of calls.** -/
theorem Counted.run {state : Aggregator} (one : OneSlot state) (counted : state.Counted)
    {calls : List Call} (added : ∀ call ∈ calls, call.Counted) : (state.run calls).1.Counted := by
  induction calls generalizing state with
  | nil => exact counted
  | cons call rest ih =>
      exact ih (one.call call) (counted.call one (added call List.mem_cons_self))
        fun later member => added later (List.mem_cons_of_mem call member)

/-- **After any calls, words count like numbers.**  Unless an event has the greatest word as its line,
the fragments that continue the growing comment are the same. -/
theorem accepts_run_eq_acceptsWord {calls : List Call} (added : ∀ call ∈ calls, call.Counted)
    {line column : Nat} (lineIsWord : line < UInt64.size) (columnIsWord : column < UInt64.size) :
    (({} : Aggregator).run calls).1.lines.accepts line column =
      (({} : Aggregator).run calls).1.lines.acceptsWord (.ofNat line) (.ofNat column) := by
  have counted : (({} : Aggregator).run calls).1.Counted :=
    Counted.run .idle (List.forall_mem_nil _) added
  refine LineRun.accepts_eq_acceptsWord (fun comment pending => counted comment ?_) lineIsWord
    columnIsWord
  exact List.mem_append_left _ (Option.mem_toList.mpr pending)

end Aggregator

end Marginalia
