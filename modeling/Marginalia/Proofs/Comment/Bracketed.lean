/-
**Well-bracketed streams of events.**

`Bracketed` is the language of the streams in which each document is opened once and closed once,
with nothing but its own lines in between; only the last one may be left open.  Inside a document
the line numbers are consecutive, and one that is left open reaches to the last line.

What that means for the aggregator is local: each event comes while a document is open or while none
is, as its kind asks for (`Fits`).  Then it is never put right by the rules for stray lines
(`Fits.continuesDoc_eq`), and no text is dropped (`Fits.text_drain`).
-/

import Marginalia.Proofs.Comment.Conservation

namespace Marginalia

/-! ### The language -/

/-- The event is a line inside a document. -/
def Event.isBody : Event → Bool
  | docBody .. => true
  | lineComment .. | docBegin .. | docEnd .. => false

/-- The events of a segment stand on consecutive lines. -/
def Segment.Consecutive (segment : Segment) : Prop :=
  segment.others.map Event.line = List.range' (segment.first.line + 1) segment.others.length

/-- **Well-bracketed streams** of a source that has the last line `last`: line comments and closed
documents, and perhaps a document at the end that is not closed. -/
inductive Bracketed (last : Nat) : List Event → Prop where
  | nil : Bracketed last []
  /-- A line comment. -/
  | comment {event : Event} {rest : List Event} (isComment : event.isDoc = false)
      (others : Bracketed last rest) : Bracketed last (event :: rest)
  /-- A document from its opening to its closing line. -/
  | block {opening closing : Event} {body rest : List Event} (isBegin : opening.isBegin = true)
      (isBody : ∀ event ∈ body, event.isBody = true) (isEnd : closing.isEnd = true)
      (consecutive : Segment.Consecutive ⟨opening, body ++ [closing]⟩)
      (others : Bracketed last rest) : Bracketed last (opening :: (body ++ closing :: rest))
  /-- A document that goes on to the last line. -/
  | openBlock {opening : Event} {body : List Event} (isBegin : opening.isBegin = true)
      (isBody : ∀ event ∈ body, event.isBody = true)
      (consecutive : Segment.Consecutive ⟨opening, body⟩)
      (reaches : opening.line + body.length = last) : Bracketed last (opening :: body)

/-- The rest of a stream from line `next` on, which lies in a document. -/
inductive DocRest (last : Nat) : Nat → List Event → Prop where
  | nil : DocRest last (last + 1) []
  | body {next : Nat} {event : Event} {rest : List Event} (isBody : event.isBody = true)
      (place : event.line = next) (others : DocRest last (next + 1) rest) :
      DocRest last next (event :: rest)
  | closing {next : Nat} {event : Event} {rest : List Event} (isEnd : event.isEnd = true)
      (place : event.line = next) (others : Bracketed last rest) :
      DocRest last next (event :: rest)

/-- One more event, on the next line, keeps a segment consecutive. -/
theorem Segment.Consecutive.add {segment : Segment} {event : Event}
    (consecutive : segment.Consecutive)
    (next : event.line = segment.first.line + 1 + segment.others.length) :
    (segment.add event).Consecutive := by
  show (segment.others ++ [event]).map Event.line =
    List.range' (segment.first.line + 1) (segment.others ++ [event]).length
  rw [List.map_append, consecutive, List.length_append, List.length_singleton,
    List.range'_1_concat, List.map_singleton, next]

/-- An opening line and some lines of its document, followed by the rest of it. -/
theorem DocRest.bracketed_append {last next : Nat} {opening : Event} {rest : List Event}
    (inDoc : DocRest last next rest) (front : List Event) (isBegin : opening.isBegin = true)
    (isBody : ∀ event ∈ front, event.isBody = true)
    (consecutive : Segment.Consecutive ⟨opening, front⟩)
    (reach : next = opening.line + 1 + front.length) :
    Bracketed last (opening :: (front ++ rest)) := by
  induction inDoc generalizing front with
  | nil =>
      rw [List.append_nil]
      exact .openBlock isBegin isBody consecutive (by omega)
  | @body next event later isBodyToo place _ ih =>
      have longerBody : ∀ other ∈ front ++ [event], other.isBody = true := by
        intro other member
        rcases List.mem_append.mp member with earlier | isLast
        · exact isBody other earlier
        · rw [List.mem_singleton.mp isLast]
          exact isBodyToo
      have longer := ih (front ++ [event]) longerBody (consecutive.add (place.trans reach))
        (by rw [List.length_append, List.length_singleton]; omega)
      rwa [List.append_assoc, List.singleton_append] at longer
  | closing isEnd place others =>
      exact .block isBegin isBody isEnd (consecutive.add (place.trans reach)) others

/-- **An opening line starts a document.** -/
theorem DocRest.bracketed {last : Nat} {opening : Event} {rest : List Event}
    (isBegin : opening.isBegin = true) (inDoc : DocRest last (opening.line + 1) rest) :
    Bracketed last (opening :: rest) :=
  inDoc.bracketed_append [] isBegin (by simp) rfl rfl

/-! ### Events that come where they may -/

namespace Event

/-- The event belongs to a document that an earlier one opened. -/
def continuesDoc : Event → Bool
  | docBody .. | docEnd .. => true
  | lineComment .. | docBegin .. => false

/-- A document is open behind the event. -/
def leavesDoc : Event → Bool
  | docBegin .. | docBody .. => true
  | lineComment .. | docEnd .. => false

end Event

/-- Each event comes inside or outside a document as its kind asks for; `inside` tells whether one
is open before the first. -/
def Fits : Bool → List Event → Prop
  | _, [] => True
  | inside, event :: rest => event.continuesDoc = inside ∧ Fits event.leavesDoc rest

theorem Fits.body_append {body rest : List Event} (isBody : ∀ event ∈ body, event.isBody = true)
    (fits : Fits true rest) : Fits true (body ++ rest) := by
  induction body with
  | nil => exact fits
  | cons event others ih =>
      have later := ih fun other member => isBody other (List.mem_cons_of_mem event member)
      have first := isBody event List.mem_cons_self
      cases event with
      | docBody text line => exact ⟨rfl, later⟩
      | _ => cases first

theorem Bracketed.fits {last : Nat} {events : List Event} (bracketed : Bracketed last events) :
    Fits false events := by
  induction bracketed with
  | nil => trivial
  | @comment event rest isComment _ ih =>
      cases event with
      | lineComment text line column => exact ⟨rfl, ih⟩
      | _ => cases isComment
  | @block opening closing body rest isBegin isBody isEnd _ _ ih =>
      have closes : Fits true (closing :: rest) := by
        cases closing with
        | docEnd text line => exact ⟨rfl, ih⟩
        | _ => cases isEnd
      cases opening with
      | docBegin text line column => exact ⟨rfl, closes.body_append isBody⟩
      | _ => cases isBegin
  | @openBlock opening body isBegin isBody _ _ =>
      have inside : Fits true (body ++ []) := Fits.body_append isBody trivial
      rw [List.append_nil] at inside
      cases opening with
      | docBegin text line column => exact ⟨rfl, inside⟩
      | _ => cases isBegin

/-! ### The aggregator on such streams -/

namespace Aggregator

/-- Behind an event that comes where it may, a document is open if the event leaves one open. -/
theorem inDoc_push {state : Aggregator} {event : Event}
    (fits : event.continuesDoc = state.inDoc) : (state.push event).1.inDoc = event.leavesDoc := by
  obtain ⟨lines, block⟩ := state
  cases block with
  | idle =>
      cases event with
      | lineComment text line column => rfl
      | docBegin text line column => rfl
      | docBody text line => cases fits
      | docEnd text line => cases fits
  | collecting comment =>
      cases event with
      | lineComment text line column => cases fits
      | docBegin text line column => cases fits
      | docBody text line => rfl
      | docEnd text line => rfl

/-- Of an event that comes where it may, everything is kept. -/
theorem kept_of_fits {state : Aggregator} {event : Event}
    (fits : event.continuesDoc = state.inDoc) : state.kept event = [event] := by
  by_cases isEnd : event.isEnd = true
  · have inside : state.inDoc = true := by
      rw [← fits]
      cases event with
      | docEnd text line => rfl
      | _ => cases isEnd
    rw [kept, inside, Bool.not_true, Bool.and_false]
    rfl
  · exact kept_of_not_end state (Bool.eq_false_iff.mpr isEnd)

end Aggregator

/-- **No event of such a stream is out of place when it reaches the aggregator**: the lines and the
closing line of a document come while one is open, line comments and opening lines while none is. -/
theorem Fits.continuesDoc_eq {state : Aggregator} {front back : List Event} {event : Event}
    (fits : Fits state.inDoc (front ++ event :: back)) :
    event.continuesDoc = (state.pushAll front).1.inDoc := by
  induction front generalizing state with
  | nil => exact fits.1
  | cons first others ih =>
      have later : Fits (state.push first).1.inDoc (others ++ event :: back) := by
        rw [Aggregator.inDoc_push fits.1]
        exact fits.2
      exact ih later

/-- **All the text of such a stream is handed out**, behind what was unfinished. -/
theorem Fits.text_drain {state : Aggregator} (one : state.OneSlot) {events : List Event}
    (fits : Fits state.inDoc events) :
    Comment.joinTexts (state.drain events) =
      Comment.joinTexts state.unfinished ++ Event.joinTexts events := by
  induction events generalizing state with
  | nil =>
      have handedOut : state.drain [] = state.unfinished := one.finish_eq.2
      rw [handedOut, Event.joinTexts_nil, String.append_empty]
  | cons event rest ih =>
      have step := one.conserves_push event
      rw [Aggregator.kept_of_fits fits.1, Event.joinTexts_cons, Event.joinTexts_nil,
        String.append_empty] at step
      have later := ih step.oneSlot (by rw [Aggregator.inDoc_push fits.1]; exact fits.2)
      rw [Aggregator.drain_cons, Comment.joinTexts_append, later, ← String.append_assoc,
        step.text_eq, Event.joinTexts_cons, String.append_assoc]

end Marginalia
