/-
**Edited and moved events give edited and moved comments.**

The aggregator never looks into a text and only compares lines with each other.  So an edit of the
texts that can be made piece by piece, and a move by some lines, pass through it:
`aggregate_transport`.  The two cases in use are an edit alone (`mapText`) and a move alone
(`moveDown`).
-/

import Marginalia.Proofs.Comment.Conservation

namespace Marginalia

/-! ### Edits and moves -/

namespace Event

/-- The event with its text edited, `offset` lines further down. -/
def transport (edit : String → String) (offset : Nat) : Event → Event
  | lineComment text line column => lineComment (edit text) (line + offset) column
  | docBegin text line column => docBegin (edit text) (line + offset) column
  | docBody text line => docBody (edit text) (line + offset)
  | docEnd text line => docEnd (edit text) (line + offset)

/-- The event with its text edited. -/
def mapText (edit : String → String) (event : Event) : Event :=
  event.transport edit 0

/-- The event `offset` lines further down. -/
def moveDown (offset : Nat) (event : Event) : Event :=
  event.transport id offset

section

variable (edit : String → String) (event : Event)

@[simp] theorem text_mapText : (event.mapText edit).text = edit event.text := by
  cases event <;> rfl

@[simp] theorem line_mapText : (event.mapText edit).line = event.line := by
  cases event <;> rfl

@[simp] theorem column_mapText : (event.mapText edit).column = event.column := by
  cases event <;> rfl

@[simp] theorem isBegin_mapText : (event.mapText edit).isBegin = event.isBegin := by
  cases event <;> rfl

@[simp] theorem isEnd_mapText : (event.mapText edit).isEnd = event.isEnd := by
  cases event <;> rfl

@[simp] theorem isFragment_mapText : (event.mapText edit).isFragment = event.isFragment := by
  cases event <;> rfl

@[simp] theorem line_moveDown (offset : Nat) :
    (event.moveDown offset).line = event.line + offset := by
  cases event <;> rfl

@[simp] theorem isFragment_moveDown (offset : Nat) :
    (event.moveDown offset).isFragment = event.isFragment := by
  cases event <;> rfl

end

theorem mapText_mapText (first second : String → String) (event : Event) :
    (event.mapText first).mapText second = event.mapText fun text => second (first text) := by
  cases event <;> rfl

/-- An edit matters only for the text that the event has. -/
theorem mapText_congr {event : Event} {first second : String → String}
    (same : first event.text = second event.text) : event.mapText first = event.mapText second := by
  cases event with
  | lineComment text line column => exact congrArg (lineComment · line column) same
  | docBegin text line column => exact congrArg (docBegin · line column) same
  | docBody text line => exact congrArg (docBody · line) same
  | docEnd text line => exact congrArg (docEnd · line) same

theorem mapText_eq_self {event : Event} {edit : String → String}
    (same : edit event.text = event.text) : event.mapText edit = event := by
  have asId : event.mapText edit = event.mapText id := mapText_congr same
  rw [asId]
  cases event <;> rfl

end Event

namespace Comment

/-- The comment with its text edited, `offset` lines further down. -/
def transport (edit : String → String) (offset : Nat) (comment : Comment) : Comment where
  text := edit comment.text
  startLine := comment.startLine + offset
  endLine := comment.endLine + offset
  column := comment.column

/-- The comment with its text edited. -/
def mapText (edit : String → String) (comment : Comment) : Comment :=
  comment.transport edit 0

/-- The comment `offset` lines further down. -/
def moveDown (offset : Nat) (comment : Comment) : Comment :=
  comment.transport id offset

end Comment

/-- An aggregator with its unfinished comments edited and moved. -/
def Aggregator.transport (edit : String → String) (offset : Nat) (state : Aggregator) :
    Aggregator where
  lines := ⟨state.lines.pending.map (Comment.transport edit offset)⟩
  block := match state.block with
    | .idle => .idle
    | .collecting comment => .collecting (comment.transport edit offset)

/-! ### They pass through the aggregator -/

section Transport

variable {edit : String → String} (editAppend : ∀ front back, edit (front ++ back) =
  edit front ++ edit back) (offset : Nat)

include editAppend in
/-- An edit that can be made piece by piece can be made before or after a comment grows. -/
theorem Comment.transport_extend (comment : Comment) (text : String) (line : Nat) :
    (comment.transport edit offset).extend (edit text) (line + offset) =
      (comment.extend text line).transport edit offset := by
  have reach : max (line + offset) (comment.startLine + offset) =
      max line comment.startLine + offset := by omega
  simp only [Comment.extend, Comment.transport, editAppend, reach]

variable (edit) in
/-- Whether a fragment continues a run does not change when both are moved. -/
theorem LineRun.accepts_transport (run : LineRun) (line column : Nat) :
    (LineRun.mk (run.pending.map (Comment.transport edit offset))).accepts (line + offset) column =
      run.accepts line column := by
  obtain ⟨pending⟩ := run
  cases pending with
  | none => rfl
  | some comment =>
      have same : (comment.endLine + offset + 1 == line + offset) =
          (comment.endLine + 1 == line) := by
        rw [Bool.eq_iff_iff, beq_iff_eq, beq_iff_eq]
        omega
      show (comment.endLine + offset + 1 == line + offset && comment.column == column) = _
      rw [same]
      rfl

include editAppend in
theorem Aggregator.pushFragment_transport (state : Aggregator) (text : String) (line column : Nat) :
    (state.transport edit offset).pushFragment (edit text) (line + offset) column =
      ((state.pushFragment text line column).1.transport edit offset,
        (state.pushFragment text line column).2.map (Comment.transport edit offset)) := by
  obtain ⟨run, block⟩ := state
  cases block with
  | collecting comment =>
      have grown := Comment.transport_extend editAppend offset comment text line
      simp [pushFragment, transport, DocBlock.append?, grown]
  | idle =>
      have accepted := run.accepts_transport edit offset line column
      by_cases joins : run.accepts line column = true
      · rw [joins] at accepted
        obtain ⟨pending⟩ := run
        cases pending with
        | none => cases joins
        | some comment =>
            have grown := Comment.transport_extend editAppend offset comment text line
            rw [Option.map_some] at accepted
            simp [pushFragment, transport, DocBlock.append?, LineRun.push, joins, accepted, grown]
      · rw [Bool.eq_false_iff.mpr joins] at accepted
        simp [pushFragment, transport, DocBlock.append?, LineRun.push, joins, accepted,
          Comment.ofFragment, Comment.transport]

include editAppend in
/-- **One event.** -/
theorem Aggregator.push_transport (state : Aggregator) (event : Event) :
    (state.transport edit offset).push (event.transport edit offset) =
      ((state.push event).1.transport edit offset,
        (state.push event).2.map (Comment.transport edit offset)) := by
  cases event with
  | lineComment text line column =>
      exact state.pushFragment_transport editAppend offset text line column
  | docBody text line =>
      exact state.pushFragment_transport editAppend offset text line strayBodyColumn
  | docBegin text line column =>
      obtain ⟨run, block⟩ := state
      cases block with
      | idle => rfl
      | collecting comment =>
          have grown := Comment.transport_extend editAppend offset comment text line
          simp [push, transport, Event.transport, DocBlock.start, LineRun.flush, grown]
  | docEnd text line =>
      obtain ⟨run, block⟩ := state
      cases block with
      | idle => rfl
      | collecting comment =>
          have grown := Comment.transport_extend editAppend offset comment text line
          simp [push, transport, Event.transport, DocBlock.close, DocBlock.append?, DocBlock.take,
            DocBlock.collected?, grown]

theorem Aggregator.finish_transport (state : Aggregator) :
    (state.transport edit offset).finish.2 =
      state.finish.2.map (Comment.transport edit offset) := by
  obtain ⟨⟨pending⟩, block⟩ := state
  cases pending with
  | none => cases block <;> rfl
  | some comment => rfl

include editAppend in
/-- **A list of events.** -/
theorem Aggregator.drain_transport (state : Aggregator) (events : List Event) :
    (state.transport edit offset).drain (events.map (Event.transport edit offset)) =
      (state.drain events).map (Comment.transport edit offset) := by
  induction events generalizing state with
  | nil =>
      show (state.transport edit offset).finish.2.toList =
        state.finish.2.toList.map (Comment.transport edit offset)
      rw [finish_transport]
      cases state.finish.2 <;> rfl
  | cons event rest ih =>
      rw [List.map_cons, drain_cons, push_transport editAppend, ih, drain_cons, List.map_append]
      cases (state.push event).2 <;> rfl

include editAppend in
/-- **Edited and moved events give edited and moved comments.** -/
theorem aggregate_transport (events : List Event) :
    aggregate (events.map (Event.transport edit offset)) =
      (aggregate events).map (Comment.transport edit offset) :=
  Aggregator.drain_transport editAppend offset {} events

end Transport

/-! ### An ending to the last text -/

/-- The comments are the same, or the ending stands behind the last text. -/
def SameUpToEnd (ending : String) (comments ended : List Comment) : Prop :=
  ended = comments ∨
    ∃ front last, comments = front ++ [last] ∧ ended = front ++ [last.mapText (· ++ ending)]

namespace SameUpToEnd

variable {ending : String} {comments ended : List Comment}

theorem append (same : SameUpToEnd ending comments ended) (front : List Comment) :
    SameUpToEnd ending (front ++ comments) (front ++ ended) := by
  rcases same with rfl | ⟨middle, last, rfl, rfl⟩
  · exact .inl rfl
  · exact .inr ⟨front ++ middle, last, by rw [List.append_assoc], by rw [List.append_assoc]⟩

theorem single (comment : Comment) :
    SameUpToEnd ending [comment] [comment.mapText (· ++ ending)] :=
  .inr ⟨[], comment, rfl, rfl⟩

/-- A comment that grows by a text with an ending has the ending. -/
theorem extend (comment : Comment) (text : String) (line : Nat) :
    SameUpToEnd ending [comment.extend text line] [comment.extend (text ++ ending) line] := by
  have same : comment.extend (text ++ ending) line =
      (comment.extend text line).mapText (· ++ ending) := by
    simp [Comment.extend, Comment.mapText, Comment.transport, String.append_assoc]
  rw [same]
  exact .single _

end SameUpToEnd

namespace Aggregator

theorem drain_idle_ending (event : Event) (ending : String) :
    SameUpToEnd ending (({} : Aggregator).drain [event])
      (({} : Aggregator).drain [event.mapText (· ++ ending)]) := by
  rw [drain_cons, drain_cons]
  rcases event.kind_cases with isEnd | isBegin | fragment
  · rw [push_strayEnd isEnd, push_strayEnd (by simpa using isEnd)]
    exact .inl rfl
  · rw [push_begin isBegin, push_begin (by simpa using isBegin), Event.text_mapText,
      Event.line_mapText, Event.column_mapText]
    exact .single (.ofFragment event.text event.line event.column)
  · rw [push_fragment fragment, push_fragment (by simpa using fragment), Event.text_mapText,
      Event.line_mapText, Event.column_mapText]
    exact .single (.ofFragment event.text event.line event.column)

/-- **An ending to the text of the last event** is one to the text of the last comment, if it shows
up at all. -/
theorem OneSlot.drain_ending {state : Aggregator} (one : OneSlot state) (event : Event)
    (ending : String) :
    SameUpToEnd ending (state.drain [event]) (state.drain [event.mapText (· ++ ending)]) := by
  cases one with
  | idle => exact drain_idle_ending event ending
  | growing comment =>
      by_cases next : event.Continues comment
      · have nextToo : (event.mapText (· ++ ending)).Continues comment := by
          simpa [Event.Continues] using next
        rw [drain_cons, drain_cons, push_growing_next next.1 next.2.1 next.2.2,
          push_growing_next nextToo.1 nextToo.2.1 nextToo.2.2, Event.text_mapText,
          Event.line_mapText]
        exact .extend comment event.text event.line
      · have apart : ∀ other ∈ [event].head?, ¬ other.Continues comment := by
          rintro _ ⟨⟩
          exact next
        have apartToo : ∀ other ∈ [event.mapText (· ++ ending)].head?,
            ¬ other.Continues comment := by
          rintro _ ⟨⟩
          simpa [Event.Continues] using next
        rw [drain_growing apart, drain_growing apartToo]
        exact (drain_idle_ending event ending).append [comment]
  | inBlock comment =>
      by_cases isEnd : event.isEnd = true
      · rw [drain_cons, drain_cons, push_inBlock_end comment isEnd,
          push_inBlock_end comment (by simpa using isEnd), Event.text_mapText, Event.line_mapText]
        exact .extend comment event.text event.line
      · have within := Bool.eq_false_iff.mpr isEnd
        rw [drain_cons, drain_cons, push_inBlock comment within,
          push_inBlock comment (by simpa using within), Event.text_mapText, Event.line_mapText]
        exact .extend comment event.text event.line

end Aggregator

end Marginalia
