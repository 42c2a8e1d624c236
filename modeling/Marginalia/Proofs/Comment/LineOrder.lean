/-
**The lines of comments.**

A comment never ends before it starts, whatever lines its events stand on, because its last line
counts as the first one if it lies before it.

Comments are handed out in the order of their lines as soon as the events come in that order.  The
events of all segments are events of the list, in the same order and none twice
(`Segmentation.events_sublist`), and a comment starts and ends on lines of its own events
(`Segment.exists_endLine`).  So whatever holds between the lines of any earlier and any later event
holds between the last line of a comment and the first line of each later one
(`pairwise_aggregate`).
-/

import Marginalia.Proofs.Comment.Segments

namespace Marginalia

namespace Segment

/-- A comment ends on the line of one of its events: the last one, or the first one if that lies
below. -/
theorem exists_endLine (segment : Segment) :
    ∃ event ∈ segment.events, event.line = segment.comment.endLine := by
  by_cases back : segment.last.line ≤ segment.first.line
  · exact ⟨segment.first, List.mem_cons_self, (Nat.max_eq_right back).symm⟩
  · have below : segment.first.line ≤ segment.last.line := Nat.le_of_not_le back
    exact ⟨segment.last, List.getLastD_mem_cons, (Nat.max_eq_left below).symm⟩

/-- What holds between the lines of the events of two segments holds between the end of the one
comment and the start of the other. -/
theorem endLine_startLine {apart : Nat → Nat → Prop} {one next : Segment}
    (lines : ∀ event ∈ one.events, ∀ later ∈ next.events, apart event.line later.line) :
    apart one.comment.endLine next.comment.startLine := by
  obtain ⟨event, member, same⟩ := one.exists_endLine
  rw [← same]
  exact lines event member next.first List.mem_cons_self

end Segment

/-- **The segments take their events in order**, and none twice. -/
theorem Segmentation.events_sublist {events : List Event} {segments : List Segment}
    (cut : Segmentation events segments) : (segments.flatMap Segment.events).Sublist events := by
  induction cut with
  | nil => exact List.Sublist.refl []
  | strayEnd _ _ ih => exact ih.cons _
  | @block opening closing body rest segments _ _ _ _ ih =>
      have taken := (List.Sublist.refl (opening :: body ++ [closing])).append ih
      simpa [Segment.events] using taken
  | openBlock _ _ => simp [Segment.events]
  | run _ _ _ ih => exact (List.Sublist.refl _).append ih

/-- The comments of some events are those of their segments. -/
theorem exists_aggregate_eq (events : List Event) :
    ∃ segments, Segmentation events segments ∧ aggregate events = segments.map Segment.comment := by
  obtain ⟨segments, cut⟩ := exists_segmentation events
  exact ⟨segments, cut, drain_eq_map_comment cut⟩

/-- **What holds between the lines of the events holds between the comments**, of each comment's end
and the start of every later one. -/
theorem pairwise_aggregate {apart : Nat → Nat → Prop} {events : List Event}
    (lines : (events.map Event.line).Pairwise apart) :
    (aggregate events).Pairwise fun one next => apart one.endLine next.startLine := by
  obtain ⟨segments, cut, same⟩ := exists_aggregate_eq events
  have inOrder := (List.pairwise_map.mp lines).sublist cut.events_sublist
  rw [same, List.pairwise_map]
  exact (List.pairwise_flatMap.mp inOrder).2.imp Segment.endLine_startLine

/-- **The lines of comments.**  Every comment starts where it ends or before.  If the events stand on
lines that never go back, no comment starts before an earlier one ends; if each stands below the one
before it, every comment starts below the end of the earlier ones. -/
theorem aggregate_lines (events : List Event) :
    (∀ comment ∈ aggregate events, comment.startLine ≤ comment.endLine) ∧
      ((events.map Event.line).Pairwise (· ≤ ·) →
        (aggregate events).Pairwise fun one next => one.endLine ≤ next.startLine) ∧
      ((events.map Event.line).Pairwise (· < ·) →
        (aggregate events).Pairwise fun one next => one.endLine < next.startLine) := by
  refine ⟨?_, pairwise_aggregate, pairwise_aggregate⟩
  intro comment member
  obtain ⟨segments, -, same⟩ := exists_aggregate_eq events
  rw [same] at member
  obtain ⟨segment, -, rfl⟩ := List.mem_map.mp member
  exact Nat.le_max_right segment.last.line segment.first.line

/-- Lines that go back inside a document leave its end at its start, and the comment behind it, which
stands above, starts before that. -/
example : aggregate [.docBegin "=begin\n" 5 0, .docBody "a\n" 2, .docEnd "=end\n" 3,
    .lineComment "# b\n" 4 0] =
    [{ text := "=begin\na\n=end\n", startLine := 5, endLine := 5, column := 0 },
      { text := "# b\n", startLine := 4, endLine := 4, column := 0 }] := by
  decide

end Marginalia
