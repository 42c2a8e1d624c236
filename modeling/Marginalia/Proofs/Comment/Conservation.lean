/-
**No text is lost between events and comments.**

An aggregator is driven by calls: it takes in an event, hands out what is unfinished, or starts
again.  A `History` is the aggregator together with what went in and what came out since the last
reset:

* `taken`: the events, but for a closing line that came while no document was open (`kept`);
* `returned`: the comments handed out.

`text_conserved` says that at any moment the texts of the comments handed out, followed by the text
of the one that is unfinished, if there is one, are the texts taken in, in their order.  Calls only
ever lead to three forms of states, with at most one comment unfinished (`OneSlot`).  `Pushed` says
once what an event can do to such a state, and each of these moves text along without dropping or
reordering it (`Conserves`).
-/

import Marginalia.Proofs.Comment.Segments

namespace Marginalia

/-- The texts of some comments, put together. -/
def Comment.joinTexts (comments : List Comment) : String :=
  String.join (comments.map Comment.text)

/-- The texts of some events, put together. -/
def Event.joinTexts (events : List Event) : String :=
  String.join (events.map Event.text)

@[simp] theorem Comment.joinTexts_nil : Comment.joinTexts [] = "" := rfl

@[simp] theorem Comment.joinTexts_append (front back : List Comment) :
    Comment.joinTexts (front ++ back) = Comment.joinTexts front ++ Comment.joinTexts back := by
  simp [Comment.joinTexts]

@[simp] theorem Comment.joinTexts_singleton (comment : Comment) :
    Comment.joinTexts [comment] = comment.text := by
  simp [Comment.joinTexts]

@[simp] theorem Event.joinTexts_nil : Event.joinTexts [] = "" := rfl

@[simp] theorem Event.joinTexts_cons (event : Event) (rest : List Event) :
    Event.joinTexts (event :: rest) = event.text ++ Event.joinTexts rest := by
  simp [Event.joinTexts]

@[simp] theorem Event.joinTexts_append (front back : List Event) :
    Event.joinTexts (front ++ back) = Event.joinTexts front ++ Event.joinTexts back := by
  simp [Event.joinTexts]

namespace Event

/-- An event closes a document, opens one, or is a fragment. -/
theorem kind_cases (event : Event) :
    event.isEnd = true ∨ event.isBegin = true ∨ event.isFragment = true := by
  cases event with
  | docEnd text line => exact .inl rfl
  | docBegin text line column => exact .inr (.inl rfl)
  | _ => exact .inr (.inr rfl)

theorem isEnd_of_isBegin {event : Event} (isBegin : event.isBegin = true) :
    event.isEnd = false := by
  cases event with
  | docEnd text line => cases isBegin
  | _ => rfl

theorem isEnd_of_isFragment {event : Event} (fragment : event.isFragment = true) :
    event.isEnd = false := by
  cases event with
  | docEnd text line => cases fragment
  | _ => rfl

/-- The event continues a line comment: a fragment on the line behind it, in the same column. -/
def Continues (event : Event) (comment : Comment) : Prop :=
  event.isFragment = true ∧ event.line = comment.endLine + 1 ∧ event.column = comment.column

instance (event : Event) (comment : Comment) : Decidable (event.Continues comment) :=
  inferInstanceAs (Decidable (_ ∧ _ ∧ _))

end Event

namespace Aggregator

/-! ### The three forms of a state -/

/-- The states with at most one comment unfinished. -/
inductive OneSlot : Aggregator → Prop where
  | idle : OneSlot {}
  | growing (comment : Comment) : OneSlot (.growing comment)
  | inBlock (comment : Comment) : OneSlot (.inBlock comment)

/-- The unfinished comments: those in the run of line comments and in the open document. -/
def unfinished (state : Aggregator) : List Comment :=
  state.lines.pending.toList ++ state.block.collected?.toList

@[simp] theorem unfinished_idle : unfinished {} = [] := rfl

@[simp] theorem unfinished_growing (comment : Comment) :
    (growing comment).unfinished = [comment] := rfl

@[simp] theorem unfinished_inBlock (comment : Comment) :
    (inBlock comment).unfinished = [comment] := rfl

theorem OneSlot.unfinished_length {state : Aggregator} (one : OneSlot state) :
    state.unfinished.length ≤ 1 := by
  cases one with
  | idle => exact Nat.zero_le 1
  | growing comment => exact Nat.le_refl 1
  | inBlock comment => exact Nat.le_refl 1

/-- What is kept of an event: all of it, unless it closes a document while none is open. -/
def kept (state : Aggregator) (event : Event) : List Event :=
  if event.isEnd && !state.inDoc then [] else [event]

theorem kept_of_not_end {event : Event} (state : Aggregator) (within : event.isEnd = false) :
    state.kept event = [event] := by
  rw [kept, within]
  rfl

theorem kept_strayEnd {event : Event} (isEnd : event.isEnd = true) : kept {} event = [] := by
  rw [kept, isEnd]
  rfl

theorem kept_inBlock (comment : Comment) (event : Event) :
    (inBlock comment).kept event = [event] := by
  have inside : (inBlock comment).inDoc = true := rfl
  rw [kept, inside, Bool.not_true, Bool.and_false]
  rfl

/-! ### What an event does -/

/-- **What taking in an event can do** to a state with at most one comment unfinished, and what it
hands out. -/
inductive Pushed (event : Event) : Aggregator → Aggregator × Option Comment → Prop where
  /-- A closing line while nothing is unfinished is passed over. -/
  | stray (isEnd : event.isEnd = true) : Pushed event {} ({}, none)
  | opens (isBegin : event.isBegin = true) :
      Pushed event {} (inBlock (.ofFragment event.text event.line event.column), none)
  | starts (fragment : event.isFragment = true) :
      Pushed event {} (growing (.ofFragment event.text event.line event.column), none)
  | joins {comment : Comment} (next : event.Continues comment) :
      Pushed event (growing comment) (growing (comment.extend event.text event.line), none)
  /-- An event that does not continue the line comment hands it out and finds nothing unfinished. -/
  | parts {comment : Comment} {state : Aggregator} (apart : ¬ event.Continues comment)
      (fresh : Pushed event {} (state, none)) : Pushed event (growing comment) (state, some comment)
  | takes {comment : Comment} (within : event.isEnd = false) :
      Pushed event (inBlock comment) (inBlock (comment.extend event.text event.line), none)
  | closes {comment : Comment} (isEnd : event.isEnd = true) :
      Pushed event (inBlock comment) ({}, some (comment.extend event.text event.line))

theorem pushed_idle (event : Event) : Pushed event {} (({} : Aggregator).push event) := by
  rcases event.kind_cases with isEnd | isBegin | fragment
  · rw [push_strayEnd isEnd]
    exact .stray isEnd
  · rw [push_begin isBegin]
    exact .opens isBegin
  · rw [push_fragment fragment]
    exact .starts fragment

theorem OneSlot.pushed {state : Aggregator} (one : OneSlot state) (event : Event) :
    Pushed event state (state.push event) := by
  cases one with
  | idle => exact pushed_idle event
  | growing comment =>
      by_cases next : event.Continues comment
      · rw [push_growing_next next.1 next.2.1 next.2.2]
        exact .joins next
      · have quiet : (({} : Aggregator).push event).2 = none := by cases event <;> rfl
        have alone : ({} : Aggregator).push event = ((({} : Aggregator).push event).1, none) :=
          Prod.ext rfl quiet
        have fresh := pushed_idle event
        rw [alone] at fresh
        rw [push_growing_apart next]
        exact .parts next fresh
  | inBlock comment =>
      by_cases isEnd : event.isEnd = true
      · rw [push_inBlock_end comment isEnd]
        exact .closes isEnd
      · have within := Bool.eq_false_iff.mpr isEnd
        rw [push_inBlock comment within]
        exact .takes within

/-! ### What a call does to the text -/

/-- A step from `state` that takes in `text`: what it hands out and what it leaves unfinished is
what was unfinished, followed by that text. -/
structure Conserves (state : Aggregator) (text : String)
    (result : Aggregator × Option Comment) : Prop where
  oneSlot : OneSlot result.1
  text_eq : Comment.joinTexts result.2.toList ++ Comment.joinTexts result.1.unfinished =
    Comment.joinTexts state.unfinished ++ text

theorem Pushed.conserves {event : Event} {state : Aggregator}
    {result : Aggregator × Option Comment} (pushed : Pushed event state result) :
    Conserves state (Event.joinTexts (state.kept event)) result := by
  induction pushed with
  | stray isEnd =>
      rw [kept_strayEnd isEnd]
      exact ⟨.idle, rfl⟩
  | opens isBegin =>
      rw [kept_of_not_end {} (Event.isEnd_of_isBegin isBegin)]
      exact ⟨.inBlock _, by simp [Comment.ofFragment]⟩
  | starts fragment =>
      rw [kept_of_not_end {} (Event.isEnd_of_isFragment fragment)]
      exact ⟨.growing _, by simp [Comment.ofFragment]⟩
  | @joins comment next =>
      rw [kept_of_not_end (growing comment) (Event.isEnd_of_isFragment next.1)]
      exact ⟨.growing _, by simp [Comment.extend]⟩
  | @parts comment state apart fresh ih =>
      -- What is kept depends only on whether a document is open, and none is in either state.
      have same : (growing comment).kept event = kept {} event := rfl
      have later : Comment.joinTexts state.unfinished = Event.joinTexts (kept {} event) := by
        simpa using ih.text_eq
      exact ⟨ih.oneSlot, by simp [same, later]⟩
  | @takes comment within =>
      rw [kept_inBlock]
      exact ⟨.inBlock _, by simp [Comment.extend]⟩
  | @closes comment isEnd =>
      rw [kept_inBlock]
      exact ⟨.idle, by simp [Comment.extend]⟩

/-- **Taking in an event** moves its text behind what was unfinished. -/
theorem OneSlot.conserves_push {state : Aggregator} (one : OneSlot state) (event : Event) :
    Conserves state (Event.joinTexts (state.kept event)) (state.push event) :=
  (one.pushed event).conserves

/-- **Finishing** hands out what was unfinished, and leaves a fresh state. -/
theorem OneSlot.finish_eq {state : Aggregator} (one : OneSlot state) :
    state.finish.1 = {} ∧ state.finish.2.toList = state.unfinished := by
  cases one with
  | idle => exact ⟨rfl, rfl⟩
  | growing comment => exact ⟨rfl, rfl⟩
  | inBlock comment => exact ⟨rfl, rfl⟩

theorem OneSlot.conserves_finish {state : Aggregator} (one : OneSlot state) :
    Conserves state "" state.finish := by
  obtain ⟨fresh, handedOut⟩ := one.finish_eq
  refine ⟨?_, ?_⟩
  · rw [fresh]
    exact .idle
  · rw [fresh, handedOut, unfinished_idle, Comment.joinTexts_nil]

theorem OneSlot.pushAll {state : Aggregator} (one : OneSlot state) (events : List Event) :
    OneSlot (state.pushAll events).1 := by
  induction events generalizing state with
  | nil => exact one
  | cons event rest ih => exact ih (one.conserves_push event).oneSlot

/-! ### Any sequence of calls -/

/-- What can be asked of an aggregator. -/
inductive Call where
  /-- Take in an event. -/
  | push (event : Event)
  /-- Hand out the unfinished comment. -/
  | finish
  /-- Start again. -/
  | reset
deriving Repr, DecidableEq

/-- The state after a call, and the comment that it hands out. -/
def call (state : Aggregator) : Call → Aggregator × Option Comment
  | .push event => state.push event
  | .finish => state.finish
  | .reset => ({}, none)

/-- **An aggregator with its history since the last reset.** -/
structure History where
  state : Aggregator := {}
  /-- The comments handed out. -/
  returned : List Comment := []
  /-- The events taken in, but for closing lines that came while no document was open. -/
  taken : List Event := []
deriving Repr, DecidableEq

namespace History

/-- The history after one more call; a reset starts a new one. -/
def add (history : History) (call : Call) : History :=
  let (next, finished) := history.state.call call
  match call with
  | .push event =>
    { state := next, returned := history.returned ++ finished.toList,
      taken := history.taken ++ history.state.kept event }
  | .finish => { history with state := next, returned := history.returned ++ finished.toList }
  | .reset => { state := next }

/-- The history of a sequence of calls on a fresh aggregator. -/
def after (calls : List Call) : History :=
  calls.foldl add {}

/-- The text that came out or is unfinished is the text that went in. -/
structure Balanced (history : History) : Prop where
  oneSlot : OneSlot history.state
  text_eq : Comment.joinTexts history.returned ++ Comment.joinTexts history.state.unfinished =
    Event.joinTexts history.taken

/-- A step that conserves text keeps a history balanced. -/
theorem Balanced.step {history : History} (balanced : Balanced history) {events : List Event}
    {result : Aggregator × Option Comment}
    (conserves : Conserves history.state (Event.joinTexts events) result) :
    Balanced { state := result.1, returned := history.returned ++ result.2.toList,
               taken := history.taken ++ events } where
  oneSlot := conserves.oneSlot
  text_eq := by
    rw [Comment.joinTexts_append, String.append_assoc, conserves.text_eq, ← String.append_assoc,
      balanced.text_eq, Event.joinTexts_append]

/-- **One call keeps a history balanced.** -/
theorem Balanced.add {history : History} (balanced : Balanced history) (call : Call) :
    Balanced (history.add call) := by
  cases call with
  | push event => exact balanced.step (balanced.oneSlot.conserves_push event)
  | finish =>
      have finished : Conserves history.state (Event.joinTexts []) history.state.finish :=
        balanced.oneSlot.conserves_finish
      have stepped := balanced.step finished
      rw [List.append_nil] at stepped
      exact stepped
  | reset => exact ⟨.idle, rfl⟩

/-- **Any number of calls keep a history balanced.** -/
theorem balanced_foldl {history : History} (balanced : Balanced history) (calls : List Call) :
    Balanced (calls.foldl History.add history) := by
  induction calls generalizing history with
  | nil => exact balanced
  | cons call rest ih => exact ih (balanced.add call)

/-- **No text is lost, invented or reordered.**  After any calls in any order at most one comment is
unfinished, and the texts of the comments handed out since the last reset, followed by the text of
the unfinished one, are the texts taken in since then. -/
theorem text_conserved (calls : List Call) :
    (after calls).state.unfinished.length ≤ 1 ∧
      Comment.joinTexts (after calls).returned ++
          Comment.joinTexts (after calls).state.unfinished =
        Event.joinTexts (after calls).taken := by
  have balanced : Balanced (after calls) := balanced_foldl ⟨.idle, rfl⟩ calls
  exact ⟨balanced.oneSlot.unfinished_length, balanced.text_eq⟩

end History

end Aggregator

end Marginalia
