/-
**The merge runs of a list of events.**

A list of events falls into segments, one for each comment.  `Segmentation` says where the cuts are,
without any state:

* outside documents, an opening line starts a block that reaches to the next closing line, or to the
  end of the events;
* outside documents, fragments form runs: an event extends a run if it stands on the next line, in
  the same column, and a run is never cut before an event that extends it;
* a closing line outside documents belongs to no segment, but parts the runs around it.

The aggregator holds one unfinished comment instead.  `aggregate_eq_map_segments` says that it
computes exactly the comments of the segments: reading a run from a fresh state leaves its comment
unfinished (`pushAll_run`), an event that does not extend it hands it out and goes on as from a
fresh state (`drain_run`), and a block is handed out at its closing line (`drain_block`).
-/

import Marginalia.Comment.Aggregator

namespace Marginalia

/-! ### Kinds of events -/

namespace Event

/-- The column at which an event starts; the lines of a document start at the margin. -/
def column : Event → Nat
  | lineComment _ _ column | docBegin _ _ column => column
  | docBody .. | docEnd .. => strayBodyColumn

/-- Whether the event opens a document. -/
def isBegin : Event → Bool
  | docBegin .. => true
  | lineComment .. | docBody .. | docEnd .. => false

/-- Whether the event closes a document. -/
def isEnd : Event → Bool
  | docEnd .. => true
  | lineComment .. | docBegin .. | docBody .. => false

/-- Whether the event, outside documents, is a fragment of a run. -/
def isFragment : Event → Bool
  | lineComment .. | docBody .. => true
  | docBegin .. | docEnd .. => false

end Event

/-! ### Segments -/

/-- The events that one comment is made of. -/
structure Segment where
  first : Event
  others : List Event := []
deriving Repr, DecidableEq

namespace Segment

/-- The events of a segment in order. -/
def events (segment : Segment) : List Event :=
  segment.first :: segment.others

/-- The last event of a segment. -/
def last (segment : Segment) : Event :=
  segment.others.getLastD segment.first

/-- The segment with one more event. -/
def add (segment : Segment) (event : Event) : Segment :=
  { segment with others := segment.others ++ [event] }

/-- **The comment of a segment**: all its texts, from the line and the column of its first event to
the line of its last one, which never counts as lying before the first. -/
def comment (segment : Segment) : Comment where
  text := String.join (segment.events.map Event.text)
  startLine := segment.first.line
  endLine := max segment.last.line segment.first.line
  column := segment.first.column

/-- An event extends a segment: a fragment on the line behind its comment, in the same column. -/
def Extends (segment : Segment) (event : Event) : Prop :=
  event.isFragment = true ∧ event.line = segment.comment.endLine + 1 ∧
    event.column = segment.comment.column

instance (segment : Segment) (event : Event) : Decidable (segment.Extends event) :=
  inferInstanceAs (Decidable (_ ∧ _ ∧ _))

/-- A run of fragments, each of which extends the run before it. -/
inductive IsRun : Segment → Prop where
  | single {event : Event} (fragment : event.isFragment = true) : IsRun { first := event }
  | extend {run : Segment} {event : Event} (isRun : IsRun run) (next : run.Extends event) :
      IsRun (run.add event)

@[simp] theorem events_single (event : Event) : Segment.events { first := event } = [event] := rfl

@[simp] theorem events_add (segment : Segment) (event : Event) :
    (segment.add event).events = segment.events ++ [event] := rfl

theorem comment_single (event : Event) :
    Segment.comment { first := event } = Comment.ofFragment event.text event.line event.column := by
  simp [comment, Comment.ofFragment, events, last]

/-- Adding an event to a segment extends its comment. -/
theorem comment_add (segment : Segment) (event : Event) :
    (segment.add event).comment = segment.comment.extend event.text event.line := by
  simp [comment, Comment.extend, events, last, add, String.append_assoc]

end Segment

/-- **The segmentation of a list of events**: where the segments of all its comments start and
end. -/
inductive Segmentation : List Event → List Segment → Prop where
  | nil : Segmentation [] []
  /-- A closing line outside documents belongs to no segment. -/
  | strayEnd {event : Event} {rest : List Event} {segments : List Segment}
      (isEnd : event.isEnd = true) (others : Segmentation rest segments) :
      Segmentation (event :: rest) segments
  /-- A block takes every event up to the next closing line. -/
  | block {opening closing : Event} {body rest : List Event} {segments : List Segment}
      (isBegin : opening.isBegin = true) (within : ∀ event ∈ body, event.isEnd = false)
      (isEnd : closing.isEnd = true) (others : Segmentation rest segments) :
      Segmentation (opening :: (body ++ closing :: rest))
        ({ first := opening, others := body ++ [closing] } :: segments)
  /-- A block without a closing line takes all the events that are left. -/
  | openBlock {opening : Event} {body : List Event}
      (isBegin : opening.isBegin = true) (within : ∀ event ∈ body, event.isEnd = false) :
      Segmentation (opening :: body) [{ first := opening, others := body }]
  /-- A run goes on as long as events extend it. -/
  | run {run : Segment} {rest : List Event} {segments : List Segment}
      (isRun : run.IsRun) (maximal : ∀ event ∈ rest.head?, ¬ run.Extends event)
      (others : Segmentation rest segments) :
      Segmentation (run.events ++ rest) (run :: segments)

/-! ### Reading to the end -/

namespace Aggregator

/-- All the comments that a state hands out when it reads the events and finishes. -/
def drain (state : Aggregator) (events : List Event) : List Comment :=
  (state.pushAll events).2 ++ (state.pushAll events).1.finish.2.toList

/-- The state in which a line comment is unfinished. -/
def growing (comment : Comment) : Aggregator :=
  { lines := ⟨some comment⟩ }

/-- The state in which a document is open. -/
def inBlock (comment : Comment) : Aggregator :=
  { block := .collecting comment }

theorem drain_cons (state : Aggregator) (event : Event) (rest : List Event) :
    state.drain (event :: rest) =
      (state.push event).2.toList ++ (state.push event).1.drain rest := by
  simp [drain, pushAll]

theorem pushAll_append (state : Aggregator) (front back : List Event) :
    state.pushAll (front ++ back) =
      (((state.pushAll front).1.pushAll back).1,
        (state.pushAll front).2 ++ ((state.pushAll front).1.pushAll back).2) := by
  induction front generalizing state with
  | nil => rfl
  | cons event rest ih => simp [pushAll, ih]

/-- What the first events finish comes first. -/
theorem drain_append (state : Aggregator) (front back : List Event) :
    state.drain (front ++ back) =
      (state.pushAll front).2 ++ (state.pushAll front).1.drain back := by
  simp [drain, pushAll_append]

/-- A fragment goes to the open document or to the run, whichever kind of event it is. -/
theorem push_eq_pushFragment {event : Event} (state : Aggregator)
    (fragment : event.isFragment = true) :
    state.push event = state.pushFragment event.text event.line event.column := by
  cases event with
  | lineComment text line column => rfl
  | docBody text line => rfl
  | _ => cases fragment

/-- A fragment starts a line comment in a fresh state. -/
theorem push_fragment {event : Event} (fragment : event.isFragment = true) :
    ({} : Aggregator).push event =
      (growing (.ofFragment event.text event.line event.column), none) :=
  push_eq_pushFragment {} fragment

/-- A fragment on the next line, in the same column, joins the unfinished line comment. -/
theorem push_growing_next {event : Event} {comment : Comment} (fragment : event.isFragment = true)
    (next : event.line = comment.endLine + 1) (aligned : event.column = comment.column) :
    (growing comment).push event = (growing (comment.extend event.text event.line), none) := by
  have accepted : (LineRun.mk (some comment)).accepts event.line event.column = true := by
    simp [LineRun.accepts, next, aligned]
  rw [push_eq_pushFragment _ fragment]
  simp [pushFragment, growing, DocBlock.append?, LineRun.push, accepted]

/-- Any other event hands the unfinished line comment out and then does what it does in a fresh
state. -/
theorem push_growing_apart {event : Event} {comment : Comment}
    (apart : ¬ (event.isFragment = true ∧ event.line = comment.endLine + 1 ∧
      event.column = comment.column)) :
    (growing comment).push event = ((({} : Aggregator).push event).1, some comment) := by
  by_cases fragment : event.isFragment = true
  · have rejected : (LineRun.mk (some comment)).accepts event.line event.column = false := by
      simp only [LineRun.accepts, Option.any_some, Bool.and_eq_false_iff, beq_eq_false_iff_ne]
      grind
    rw [push_fragment fragment, push_eq_pushFragment _ fragment]
    simp [pushFragment, growing, DocBlock.append?, LineRun.push, rejected]
  · cases event with
    | docBegin text line column => rfl
    | docEnd text line => rfl
    | _ => exact absurd rfl fragment

/-- An opening line opens a document in a fresh state. -/
theorem push_begin {event : Event} (isBegin : event.isBegin = true) :
    ({} : Aggregator).push event =
      (inBlock (.ofFragment event.text event.line event.column), none) := by
  cases event with
  | docBegin text line column => rfl
  | _ => cases isBegin

/-- Every event but a closing line is one more line of the open document. -/
theorem push_inBlock {event : Event} (comment : Comment) (within : event.isEnd = false) :
    (inBlock comment).push event = (inBlock (comment.extend event.text event.line), none) := by
  cases event with
  | docEnd text line => cases within
  | _ => rfl

/-- A closing line finishes the open document. -/
theorem push_inBlock_end {event : Event} (comment : Comment) (isEnd : event.isEnd = true) :
    (inBlock comment).push event = ({}, some (comment.extend event.text event.line)) := by
  cases event with
  | docEnd text line => rfl
  | _ => cases isEnd

/-- A closing line does nothing in a fresh state. -/
theorem push_strayEnd {event : Event} (isEnd : event.isEnd = true) :
    ({} : Aggregator).push event = ({}, none) := by
  cases event with
  | docEnd text line => rfl
  | _ => cases isEnd

/-! ### Runs and blocks -/

/-- Reading a run from a fresh state leaves its comment unfinished. -/
theorem pushAll_run {run : Segment} (isRun : run.IsRun) :
    ({} : Aggregator).pushAll run.events = (growing run.comment, []) := by
  induction isRun with
  | single fragment => simp [pushAll, push_fragment fragment, Segment.comment_single]
  | extend isRun next ih =>
      obtain ⟨fragment, line, column⟩ := next
      rw [Segment.events_add, pushAll_append, ih, Segment.comment_add]
      simp [pushAll, push_growing_next fragment line column]

/-- A comment that the next event does not extend is handed out, and the rest is read as from a
fresh state. -/
theorem drain_growing {comment : Comment} {rest : List Event}
    (apart : ∀ event ∈ rest.head?, ¬ (event.isFragment = true ∧
      event.line = comment.endLine + 1 ∧ event.column = comment.column)) :
    (growing comment).drain rest = comment :: ({} : Aggregator).drain rest := by
  cases rest with
  | nil => rfl
  | cons event later =>
      have quiet : (({} : Aggregator).push event).2 = none := by cases event <;> rfl
      rw [drain_cons, drain_cons, push_growing_apart (apart event rfl), quiet]
      rfl

/-- **A maximal run is one comment.** -/
theorem drain_run {run : Segment} {rest : List Event} (isRun : run.IsRun)
    (maximal : ∀ event ∈ rest.head?, ¬ run.Extends event) :
    ({} : Aggregator).drain (run.events ++ rest) = run.comment :: ({} : Aggregator).drain rest := by
  rw [drain_append, pushAll_run isRun]
  exact drain_growing maximal

/-- An open block takes in every event short of a closing line. -/
theorem pushAll_inBlock (block : Segment) (body : List Event)
    (within : ∀ event ∈ body, event.isEnd = false) :
    (inBlock block.comment).pushAll body =
      (inBlock (Segment.mk block.first (block.others ++ body)).comment, []) := by
  induction body generalizing block with
  | nil => simp [pushAll]
  | cons event rest ih =>
      have later := ih (block.add event) fun line member => within line (by simp [member])
      rw [Segment.comment_add] at later
      simp [pushAll, push_inBlock _ (within event (by simp)), later, Segment.add]

/-- Reading an opening line and what follows it, short of a closing line, leaves the block open. -/
theorem pushAll_openBlock {opening : Event} {body : List Event}
    (isBegin : opening.isBegin = true) (within : ∀ event ∈ body, event.isEnd = false) :
    ({} : Aggregator).pushAll (opening :: body) =
      (inBlock (Segment.mk opening body).comment, []) := by
  have grown := pushAll_inBlock { first := opening } body within
  rw [Segment.comment_single] at grown
  simp [pushAll, push_begin isBegin, grown]

/-- **A block is one comment.** -/
theorem drain_block {opening closing : Event} {body rest : List Event}
    (isBegin : opening.isBegin = true) (within : ∀ event ∈ body, event.isEnd = false)
    (isEnd : closing.isEnd = true) :
    ({} : Aggregator).drain (opening :: (body ++ closing :: rest)) =
      (Segment.mk opening (body ++ [closing])).comment :: ({} : Aggregator).drain rest := by
  have added : Segment.mk opening (body ++ [closing]) = (Segment.mk opening body).add closing := rfl
  rw [← List.cons_append, drain_append, pushAll_openBlock isBegin within, drain_cons,
    push_inBlock_end _ isEnd, added, Segment.comment_add]
  rfl

/-- A block that is never closed is handed out at the end. -/
theorem drain_openBlock {opening : Event} {body : List Event}
    (isBegin : opening.isBegin = true) (within : ∀ event ∈ body, event.isEnd = false) :
    ({} : Aggregator).drain (opening :: body) = [(Segment.mk opening body).comment] := by
  rw [drain, pushAll_openBlock isBegin within]
  rfl

end Aggregator

/-! ### Every list of events has a segmentation -/

/-- A run that starts the events goes on to a maximal one. -/
theorem exists_maximal_run (run : Segment) (rest : List Event) (isRun : run.IsRun) :
    ∃ longest later, Segment.IsRun longest ∧ longest.events ++ later = run.events ++ rest ∧
      (∀ event ∈ later.head?, ¬ longest.Extends event) ∧ later.length ≤ rest.length := by
  induction rest generalizing run with
  | nil => exact ⟨run, [], isRun, rfl, by simp, Nat.le_refl 0⟩
  | cons event others ih =>
      by_cases next : run.Extends event
      · obtain ⟨longest, later, grown, same, maximal, shorter⟩ :=
          ih (run.add event) (.extend isRun next)
        refine ⟨longest, later, grown, ?_, maximal, Nat.le_succ_of_le shorter⟩
        rw [same, Segment.events_add, List.append_assoc]
        rfl
      · refine ⟨run, event :: others, isRun, rfl, ?_, Nat.le_refl _⟩
        intro first isFirst
        cases isFirst
        exact next

theorem exists_segmentation (events : List Event) : ∃ segments, Segmentation events segments := by
  -- What follows a segment is shorter than the events, but need not be their tail.
  induction bound : events.length using Nat.strongRecOn generalizing events with
  | _ size ih =>
    cases events with
    | nil => exact ⟨[], .nil⟩
    | cons event rest =>
        have smaller : ∀ later : List Event, later.length ≤ rest.length →
            ∃ segments, Segmentation later segments :=
          fun later shorter => ih later.length (by rw [← bound, List.length_cons]; omega) later rfl
        by_cases isBegin : event.isBegin = true
        · cases found : rest.find? Event.isEnd with
          | none =>
              refine ⟨_, .openBlock isBegin fun line member => ?_⟩
              simpa using List.find?_eq_none.mp found line member
          | some closing =>
              obtain ⟨isEnd, body, later, rfl, within⟩ := List.find?_eq_some_iff_append.mp found
              obtain ⟨segments, cut⟩ := smaller later (by simp; omega)
              refine ⟨_, .block isBegin (fun line member => ?_) isEnd cut⟩
              simpa using within line member
        · by_cases isEnd : event.isEnd = true
          · obtain ⟨segments, cut⟩ := smaller rest (Nat.le_refl _)
            exact ⟨segments, .strayEnd isEnd cut⟩
          · have fragment : event.isFragment = true := by
              cases event <;> simp_all [Event.isBegin, Event.isEnd, Event.isFragment]
            obtain ⟨run, later, isRun, same, maximal, shorter⟩ :=
              exists_maximal_run { first := event } rest (.single fragment)
            obtain ⟨segments, cut⟩ := smaller later shorter
            refine ⟨run :: segments, ?_⟩
            have whole : run.events ++ later = event :: rest := same
            exact whole ▸ .run isRun maximal cut

/-- A segmentation determines what is handed out. -/
theorem drain_eq_map_comment {events : List Event} {segments : List Segment}
    (cut : Segmentation events segments) :
    ({} : Aggregator).drain events = segments.map Segment.comment := by
  induction cut with
  | nil => rfl
  | strayEnd isEnd _ ih => simpa [Aggregator.drain_cons, Aggregator.push_strayEnd isEnd] using ih
  | block isBegin within isEnd _ ih =>
      rw [Aggregator.drain_block isBegin within isEnd, ih, List.map_cons]
  | openBlock isBegin within => exact Aggregator.drain_openBlock isBegin within
  | run isRun maximal _ ih => rw [Aggregator.drain_run isRun maximal, ih, List.map_cons]

/-- **The aggregator computes exactly the merge runs.**  Every list of events, in any order, has a
segmentation, and its comments are those of the segments, one for each and in order. -/
theorem aggregate_eq_map_segments (events : List Event) :
    (∃ segments, Segmentation events segments) ∧
      ∀ segments, Segmentation events segments →
        aggregate events = segments.map Segment.comment ∧
          (aggregate events).length = segments.length := by
  refine ⟨exists_segmentation events, fun segments cut => ?_⟩
  have same : aggregate events = segments.map Segment.comment := drain_eq_map_comment cut
  exact ⟨same, by rw [same, List.length_map]⟩

end Marginalia
