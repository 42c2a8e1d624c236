/-
**Comments one at a time.**

A `CommentStream` hands out each comment as soon as it is finished, before the later events have
been looked at.  After the last comment it hands out nothing for ever.
-/

import Marginalia.Comment.Aggregator

namespace Marginalia

/-- The events that are still to be read, and what the earlier ones left unfinished. -/
structure CommentStream where
  events : List Event
  state : Aggregator := {}
  done : Bool := false
deriving Repr

/-- The stream of the comments of a list of events. -/
def CommentStream.ofEvents (events : List Event) : CommentStream :=
  { events }

/-- Reads events until one finishes a comment. -/
def CommentStream.advance (state : Aggregator) : List Event → CommentStream × Option Comment
  | [] =>
    let (last, finished) := state.finish
    ({ events := [], state := last, done := true }, finished)
  | event :: rest =>
    match state.push event with
    | (next, some finished) => ({ events := rest, state := next }, some finished)
    | (next, none) => advance next rest

/-- The next comment. -/
def CommentStream.next (stream : CommentStream) : CommentStream × Option Comment :=
  if stream.done then (stream, none) else advance stream.state stream.events

/-- The answers of the next `count` calls of `next`. -/
def CommentStream.take (stream : CommentStream) : Nat → List (Option Comment)
  | 0 => []
  | count + 1 =>
    let (rest, answer) := stream.next
    answer :: rest.take count

end Marginalia
