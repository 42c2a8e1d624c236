/-
**Comments one at a time are the comments of the whole list.**

A stream stands for the comments that it still has to hand out (`CommentStream.remaining`): a call of
`next` takes the first of them (`next_eq`), and at the end of the list there is nothing for ever.  So
the answers of any number of calls are read off the list (`take_eq`).

Comments that have been handed out are final, as what the first events finish comes first, whatever
events follow (`drain_append`).
-/

import Marginalia.Comment.Stream
import Marginalia.Proofs.Comment.Calls

namespace Marginalia

namespace CommentStream

/-- The comments that a stream has still to hand out. -/
def remaining (stream : CommentStream) : List Comment :=
  if stream.done then [] else stream.state.drain stream.events

/-- Reading on to the next comment takes the first of those that the events still give. -/
theorem advance_eq (state : Aggregator) (events : List Event) :
    (advance state events).2 = (state.drain events).head? ∧
      (advance state events).1.remaining = (state.drain events).tail := by
  induction events generalizing state with
  | nil =>
      show state.finish.2 = state.finish.2.toList.head? ∧ [] = state.finish.2.toList.tail
      cases state.finish.2 <;> exact ⟨rfl, rfl⟩
  | cons event rest ih =>
      rw [Aggregator.drain_cons]
      cases pushed : state.push event with
      | mk next answer =>
          cases answer with
          | none =>
              have goesOn : advance state (event :: rest) = advance next rest := by
                simp only [advance, pushed]
              rw [goesOn]
              exact ih next
          | some comment =>
              have stops : advance state (event :: rest) =
                  ({ events := rest, state := next }, some comment) := by
                simp only [advance, pushed]
              rw [stops]
              exact ⟨rfl, rfl⟩

/-- **One call** takes the first of the comments that are left. -/
theorem next_eq (stream : CommentStream) :
    stream.next.2 = stream.remaining.head? ∧ stream.next.1.remaining = stream.remaining.tail := by
  unfold next remaining
  by_cases done : stream.done = true
  · simp [done]
  · rw [if_neg done, if_neg done]
    exact advance_eq stream.state stream.events

/-- **Any number of calls** read the comments off one by one, and then find none. -/
theorem take_eq (stream : CommentStream) (count : Nat) :
    stream.take count = (List.range count).map fun place => stream.remaining[place]? := by
  induction count generalizing stream with
  | zero => rfl
  | succ count ih =>
      obtain ⟨first, others⟩ := stream.next_eq
      show stream.next.2 :: stream.next.1.take count = _
      rw [ih, first, others, List.range_succ_eq_map, List.map_cons, List.map_map,
        List.head?_eq_getElem?]
      simp [Function.comp_def]

end CommentStream

/-- **Streaming gives the comments of the whole list, and what has been handed out is final.**  The
comments that are handed out while the first events are taken in, one by one, come first among those
of the whole list, whatever follows.  The answers of any number of calls for the next comment are the
comments of the whole list in order, and then nothing for ever; these are all the answers to taking in
the events one by one and finishing once. -/
theorem stream_eq_aggregate :
    (∀ front back : List Event,
      (({} : Aggregator).run (front.map .push)).2.filterMap id <+: aggregate (front ++ back)) ∧
    ∀ events : List Event,
      aggregate events =
          (({} : Aggregator).run (events.map .push ++ [.finish])).2.filterMap id ∧
        ∀ count, (CommentStream.ofEvents events).take count =
          (List.range count).map fun place => (aggregate events)[place]? := by
  refine ⟨fun front back => ?_, fun events => ⟨?_, fun count => ?_⟩⟩
  · rw [(Aggregator.run_map_push {} front).2]
    have whole : aggregate (front ++ back) = ({} : Aggregator).drain (front ++ back) := rfl
    rw [whole, Aggregator.drain_append]
    exact List.prefix_append _ _
  · obtain ⟨sameState, sameComments⟩ := Aggregator.run_map_push {} events
    rw [Aggregator.run_append, List.filterMap_append, sameState, sameComments]
    show _ = _ ++ [(({} : Aggregator).pushAll events).1.finish.2].filterMap id
    cases answer : (({} : Aggregator).pushAll events).1.finish.2 <;> simp [aggregate, answer]
  · exact (CommentStream.ofEvents events).take_eq count

end Marginalia
