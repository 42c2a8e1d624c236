/-
**A comment, read as a source of its own, is one comment.**

The lines of a comment's text are the stretches that `RunOn` and `DocOn` name, because a stretch cut
out of the lines of a source is again the lines of a text (`Lined`).  Reading them from a fresh
state meets only one kind of line:

* lines that start with a comment sign, each of which joins the run of those before it
  (`drain_signLines`);
* an opening marker, lines of the open document (`drain_docLines`), and perhaps the closing marker.

Either way the lines are `OneComment`, made of them all, and `extractComments_text` follows.
-/

import Marginalia.Proofs.Ruby.Faithful
import Marginalia.Proofs.Ruby.Resume

namespace Marginalia.Ruby

open Marginalia.Text

/-! ### Lines of comments in a fresh state -/

/-- A line that starts with a comment sign is a comment at the margin. -/
theorem readLine_sign (after : List Char) (number : Nat) :
    ({} : Lexer).readLine ('#' :: after) number =
      ({}, some (.lineComment (String.ofList ('#' :: after)) number 0)) := by
  rw [readLine_eq_scanLine number fun _ => noMarker_of_head (by simp) (by simp)]
  rfl

theorem readLine_opening {line : List Char} (marker : opensDoc line = true) (number : Nat) :
    ({} : Lexer).readLine line number =
      ({ inDoc := true }, some (.docBegin (String.ofList line) number 0)) := by
  simp [Lexer.readLine, Lexer.readCode, HeredocQueue.isActive, marker]

theorem readLine_body {line : List Char} (marker : closesDoc line = false) (number : Nat) :
    ({ inDoc := true } : Lexer).readLine line number =
      ({ inDoc := true }, some (.docBody (String.ofList line) number)) := by
  simp [Lexer.readLine, Lexer.readDoc, HeredocQueue.isActive, marker]

theorem readLine_closing {line : List Char} (marker : closesDoc line = true) (number : Nat) :
    ({ inDoc := true } : Lexer).readLine line number =
      ({}, some (.docEnd (String.ofList line) number)) := by
  simp [Lexer.readLine, Lexer.readDoc, HeredocQueue.isActive, marker]

/-- Reading one line hands its event to the aggregator. -/
theorem drain_run_cons {state next : Lexer} {number : Nat} {line : List Char} {event : Event}
    {before after : Aggregator} (reads : state.readLine line number = (next, some event))
    (takes : before.push event = (after, none)) (rest : List (List Char)) :
    before.drain (lexer.run state number (line :: rest)).2 =
      after.drain (lexer.run next (number + 1) rest).2 := by
  rw [run_cons, reads, Option.toList_some, List.singleton_append, Aggregator.drain_cons, takes]
  rfl

/-! ### Runs -/

/-- Lines that start with a comment sign all join the run on the lines before them. -/
theorem drain_signLines {block : List (List Char)} {comment : Comment}
    (run : RunOn [] block comment) (margin : comment.column = 0) (more : List (List Char))
    (signs : ∀ line ∈ more, line.head? = some '#') :
    ∃ grown, RunOn [] (block ++ more) grown ∧ grown.column = 0 ∧
      (Aggregator.growing comment).drain (lexer.run {} (block.length + 1) more).2 = [grown] := by
  induction more generalizing block comment with
  | nil => exact ⟨comment, by rwa [List.append_nil], margin, rfl⟩
  | cons line rest ih =>
      obtain ⟨after, rfl⟩ := List.head?_eq_some_iff.mp (signs line (by simp))
      have longer := run.extend [] after margin.symm
      obtain ⟨grown, stands, atMargin, later⟩ :=
        ih longer margin fun line member => signs line (by simp [member])
      rw [List.append_assoc] at stands
      refine ⟨grown, stands, atMargin, ?_⟩
      have reach : block.length + 1 = comment.endLine + 1 := by
        rw [run.endLine, List.length_nil, Nat.zero_add]
      rw [drain_run_cons (readLine_sign after _)
        (Aggregator.push_growing_next rfl reach margin.symm), ← later]
      simp [Event.text, Event.line]

/-! ### Documents -/

/-- Lines that do not close the open document are added to it, whatever follows them. -/
theorem drain_docLines {block : List (List Char)} {comment : Comment}
    (doc : DocOn [] block comment) (body rest : List (List Char))
    (within : ∀ line ∈ body, closesDoc line = false) :
    ∃ grown, DocOn [] (block ++ body) grown ∧
      (Aggregator.inBlock comment).drain
          (lexer.run { inDoc := true } (block.length + 1) (body ++ rest)).2 =
        (Aggregator.inBlock grown).drain
          (lexer.run { inDoc := true } ((block ++ body).length + 1) rest).2 := by
  induction body generalizing block comment with
  | nil => exact ⟨comment, by rwa [List.append_nil], by rw [List.append_nil, List.nil_append]⟩
  | cons line others ih =>
      obtain ⟨grown, stands, later⟩ :=
        ih (doc.extend line) fun line member => within line (by simp [member])
      rw [List.append_assoc, List.singleton_append] at stands later
      refine ⟨grown, stands, ?_⟩
      rw [List.cons_append, drain_run_cons (readLine_body (within line (by simp)) _)
        (Aggregator.push_inBlock comment rfl), ← later]
      simp [Event.text, Event.line]

/-- Up to a closing marker, the lines of a document leave it open. -/
theorem OpenDocLines.drain {front : List (List Char)} (opened : OpenDocLines front)
    (rest : List (List Char)) :
    ∃ comment, DocOn [] front comment ∧
      ({} : Aggregator).drain (lexer.run {} 1 (front ++ rest)).2 =
        (Aggregator.inBlock comment).drain
          (lexer.run { inDoc := true } (front.length + 1) rest).2 := by
  obtain ⟨opening, body, rfl, marker, within⟩ := opened
  obtain ⟨comment, stands, later⟩ := drain_docLines (.single [] opening) body rest within
  refine ⟨comment, stands, ?_⟩
  rw [List.cons_append, drain_run_cons (readLine_opening marker 1) (Aggregator.push_begin rfl)]
  exact later

/-! ### Lines that are one comment -/

/-- Read from the start, the lines are one comment, made of them all. -/
def OneComment (block : List (List Char)) : Prop :=
  ∃ comment, DocOn [] block comment ∧ ({} : Aggregator).drain (lexer.run {} 1 block).2 = [comment]

theorem OpenDocLines.oneComment {block : List (List Char)} (opened : OpenDocLines block) :
    OneComment block := by
  obtain ⟨comment, stands, later⟩ := opened.drain []
  rw [List.append_nil] at later
  exact ⟨comment, stands, later⟩

theorem ClosedDocLines.oneComment {block : List (List Char)} (closed : ClosedDocLines block) :
    OneComment block := by
  obtain ⟨front, closing, rfl, opened, marker⟩ := closed
  obtain ⟨comment, stands, later⟩ := opened.drain [closing]
  refine ⟨_, stands.extend closing, ?_⟩
  rw [later, run_cons, readLine_closing marker, Option.toList_some, List.singleton_append,
    Aggregator.drain_cons, Aggregator.push_inBlock_end comment rfl, List.length_nil, Nat.zero_add]
  rfl

/-- At the margin, the lines of a run are whole. -/
theorem RunOn.docOn {before block : List (List Char)} {comment : Comment}
    (run : RunOn before block comment) (margin : comment.column = 0) :
    DocOn before block comment where
  toStandsOn := run.toStandsOn
  margin := margin
  text := by
    have whole : dropBytes 0 = id := funext fun line => by cases line <;> rfl
    rw [run.text, margin, whole, List.map_id]

theorem oneComment_of_signs {block : List (List Char)} (nonempty : block ≠ [])
    (signs : ∀ line ∈ block, line.head? = some '#') : OneComment block := by
  obtain ⟨line, rest, rfl⟩ := List.exists_cons_of_ne_nil nonempty
  obtain ⟨after, rfl⟩ := List.head?_eq_some_iff.mp (signs line (by simp))
  obtain ⟨comment, stands, margin, later⟩ := drain_signLines (.single [] [] after) rfl rest
    fun line member => signs line (by simp [member])
  refine ⟨comment, stands.docOn margin, ?_⟩
  rw [drain_run_cons (readLine_sign after 1) (Aggregator.push_fragment rfl)]
  exact later

/-- Put together to a source of their own, the lines are one comment from its first line on. -/
theorem OneComment.extractComments_eq {block : List (List Char)} (one : OneComment block)
    (lined : Lined block) {text : String} (same : text.toList = block.flatten) :
    extractComments text =
      [{ text := text, startLine := 1, endLine := block.length, column := 0 }] := by
  obtain ⟨comment, stands, read⟩ := one
  have textEq : comment.text = text := String.toList_injective (by rw [stands.text, same])
  have last : comment.endLine = block.length := by
    rw [stands.endLine, List.length_nil, Nat.zero_add]
  have start : comment.startLine = 1 := stands.startLine
  show ({} : Aggregator).drain (lexer.run {} 1 (lines text.toList)).2 = _
  rw [same, lines_flatten lined, read, ← textEq, ← last, ← start, ← stands.margin]

/-! ### The lines of a comment's text -/

theorem StandsOn.lineSpan_eq {before block : List (List Char)} {comment : Comment}
    (stands : StandsOn before block comment) : comment.lineSpan = block.length := by
  have positive := List.length_pos_iff.mpr stands.nonempty
  rw [Comment.lineSpan, stands.startLine, stands.endLine]
  omega

/-- What the lines of a run hold from its column on are lines that start with a comment sign. -/
theorem RunOn.text_lines {before block : List (List Char)} {comment : Comment}
    (run : RunOn before block comment) (lined : Lined block) :
    Lined (block.map (dropBytes comment.column)) ∧
      ∀ line ∈ block.map (dropBytes comment.column), line.head? = some '#' := by
  refine ⟨lined.map_suffix fun line member => ?_, fun line member => ?_⟩
  · obtain ⟨front, after, split, sign⟩ := (run.signs line member).split
    exact ⟨by simp [sign], front, split⟩
  · obtain ⟨whole, inBlock, rfl⟩ := List.mem_map.mp member
    obtain ⟨front, after, split, sign⟩ := (run.signs whole inBlock).split
    rw [sign, List.head?_cons]

/-- The text of a comment is as many lines as the comment has, and they are one comment again. -/
theorem Found.exists_lines {source : List (List Char)} {comment : Comment}
    (found : Found source comment) (lined : Lined source) :
    ∃ block, Lined block ∧ comment.text.toList = block.flatten ∧
      comment.lineSpan = block.length ∧ OneComment block := by
  rcases found with settled | ⟨before, block, rfl, doc, opened⟩
  · cases settled with
    | run before block after whole run =>
        rw [whole] at lined
        obtain ⟨cut, signs⟩ := run.text_lines lined.left.right
        refine ⟨block.map (dropBytes comment.column), cut, run.text, ?_, ?_⟩
        · rw [run.lineSpan_eq, List.length_map]
        · exact oneComment_of_signs (by simpa using run.nonempty) signs
    | doc before block after whole doc closed =>
        rw [whole] at lined
        exact ⟨block, lined.left.right, doc.text, doc.lineSpan_eq, closed.oneComment⟩
  · exact ⟨block, lined.right, doc.text, doc.lineSpan_eq, opened.oneComment⟩

/-- **A comment, read as a source of its own, is one comment**: the same text, at the start of the
first line. -/
theorem extractComments_text {source : String} {comment : Comment}
    (member : comment ∈ extractComments source) :
    extractComments comment.text =
      [{ text := comment.text, startLine := 1, endLine := comment.lineSpan, column := 0 }] := by
  have found := (extractComments_found source).1 comment member
  obtain ⟨block, lined, text, span, one⟩ := found.exists_lines (lined_lines source.toList)
  rw [span]
  exact one.extractComments_eq lined text

/-- A run of two indented comments behind code, read again. -/
theorem extractComments_text_indented :
    (⟨"# a\n# b\n", 2, 3, 2⟩ : Comment) ∈ extractComments "x = 1\n  # a\n  # b\n" ∧
      extractComments "# a\n# b\n" = [⟨"# a\n# b\n", 1, 2, 0⟩] := by
  have member : (⟨"# a\n# b\n", 2, 3, 2⟩ : Comment) ∈
      extractComments "x = 1\n  # a\n  # b\n" := by decide +kernel
  exact ⟨member, by simpa only [Comment.lineSpan] using extractComments_text member⟩

end Marginalia.Ruby
