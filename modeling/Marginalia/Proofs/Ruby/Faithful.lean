/-
**The comments of a source, read back from its lines.**

Each comment stands on a stretch of lines, and its text is made of those lines:

* `RunOn`: a comment sign stands in the comment's column on each of the lines, and the text is what
  the lines hold from there on;
* `DocOn`: the text is the whole lines, the first of which opens a document; a later one closes it
  only if it is the last (`OpenDocLines`, `ClosedDocLines`).

`Progress` is the invariant of reading a source line by line: the comments handed out so far stand
on the lines read so far and never share a line, and the unfinished one, if there is one, is a run
or is the open document that reaches to the last line read.  Each of the five outcomes of a line
keeps it (`Progress.step`), so reading all the lines does (`Progress.run`), and handing out the
unfinished comment at the end gives `extractComments_faithful`.
-/

import Marginalia.Proofs.Comment.Segments
import Marginalia.Proofs.Ruby.Outcome
import Marginalia.Proofs.Text.Lines

namespace Marginalia.Ruby

open Marginalia.Text

/-! ### Comments and the lines they stand on -/

/-- The comment stands on the lines `block`, which follow the lines `before`. -/
structure StandsOn (before block : List (List Char)) (comment : Comment) : Prop where
  startLine : comment.startLine = before.length + 1
  endLine : comment.endLine = before.length + block.length
  nonempty : block ≠ []

/-- The comment is a run of line comments on the lines `block`. -/
structure RunOn (before block : List (List Char)) (comment : Comment) : Prop
    extends StandsOn before block comment where
  signs : ∀ line ∈ block, HashAt comment.column line
  text : comment.text.toList = (block.map (dropBytes comment.column)).flatten

/-- The comment is made of the whole lines `block`. -/
structure DocOn (before block : List (List Char)) (comment : Comment) : Prop
    extends StandsOn before block comment where
  margin : comment.column = 0
  text : comment.text.toList = block.flatten

/-- Lines of a document that is still open: the first opens it and none of the others closes it. -/
def OpenDocLines (block : List (List Char)) : Prop :=
  ∃ opening body, block = opening :: body ∧ opensDoc opening = true ∧
    ∀ line ∈ body, closesDoc line = false

/-- Lines of a document that its last line closes. -/
def ClosedDocLines (block : List (List Char)) : Prop :=
  ∃ opened closing, block = opened ++ [closing] ∧ OpenDocLines opened ∧ closesDoc closing = true

theorem StandsOn.single (read : List (List Char)) (line : List Char) (text : String)
    (column : Nat) :
    StandsOn read [line] (.ofFragment text (read.length + 1) column) :=
  ⟨rfl, rfl, List.cons_ne_nil line []⟩

theorem StandsOn.extend {before block : List (List Char)} {comment : Comment}
    (stands : StandsOn before block comment) (line : List Char) (text : String) :
    StandsOn before (block ++ [line]) (comment.extend text (before.length + block.length + 1)) where
  startLine := stands.startLine
  endLine := by
    show max (before.length + block.length + 1) comment.startLine = _
    rw [stands.startLine, List.length_append, List.length_singleton]
    omega
  nonempty := by simp

/-- A line comment stands on its line. -/
theorem RunOn.single (read : List (List Char)) (before after : List Char) :
    RunOn read [before ++ '#' :: after]
      (.ofFragment (String.ofList ('#' :: after)) (read.length + 1) (byteLength before)) where
  toStandsOn := .single ..
  signs line member := by
    rw [List.mem_singleton.mp member]
    exact ⟨before, after, rfl, rfl⟩
  text := by simp [Comment.ofFragment, dropBytes_byteLength]

/-- A line comment in the same column lengthens a run by its line. -/
theorem RunOn.extend {before block : List (List Char)} {comment : Comment}
    (run : RunOn before block comment) (front after : List Char)
    (aligned : byteLength front = comment.column) :
    RunOn before (block ++ [front ++ '#' :: after])
      (comment.extend (String.ofList ('#' :: after)) (before.length + block.length + 1)) where
  toStandsOn := run.toStandsOn.extend ..
  signs line member := by
    rcases List.mem_append.mp member with earlier | last
    · exact run.signs line earlier
    · rw [List.mem_singleton.mp last]
      exact ⟨front, after, rfl, aligned⟩
  text := by
    have ending : dropBytes comment.column (front ++ '#' :: after) = '#' :: after := by
      rw [← aligned, dropBytes_byteLength]
    simp [Comment.extend, run.text, ending]

/-- The line that opens a document is the start of its comment. -/
theorem DocOn.single (read : List (List Char)) (line : List Char) :
    DocOn read [line] (.ofFragment (String.ofList line) (read.length + 1) 0) where
  toStandsOn := .single ..
  margin := rfl
  text := by simp [Comment.ofFragment]

/-- One more line of a document lengthens its comment by the line. -/
theorem DocOn.extend {before block : List (List Char)} {comment : Comment}
    (doc : DocOn before block comment) (line : List Char) :
    DocOn before (block ++ [line])
      (comment.extend (String.ofList line) (before.length + block.length + 1)) where
  toStandsOn := doc.toStandsOn.extend ..
  margin := doc.margin
  text := by simp [Comment.extend, doc.text]

theorem OpenDocLines.append {block : List (List Char)} (opened : OpenDocLines block)
    {line : List Char} (marker : closesDoc line = false) : OpenDocLines (block ++ [line]) := by
  obtain ⟨opening, body, rfl, opens, within⟩ := opened
  refine ⟨opening, body ++ [line], rfl, opens, fun other member => ?_⟩
  rcases List.mem_append.mp member with earlier | last
  · exact within other earlier
  · rw [List.mem_singleton.mp last]
    exact marker

/-- A finished comment: a run, or a document that is closed. -/
inductive Settled (read : List (List Char)) (comment : Comment) : Prop where
  | run (before block after : List (List Char)) (whole : read = before ++ block ++ after)
      (run : RunOn before block comment)
  | doc (before block after : List (List Char)) (whole : read = before ++ block ++ after)
      (doc : DocOn before block comment) (closed : ClosedDocLines block)

/-- Later lines do not change a finished comment. -/
theorem Settled.append {read : List (List Char)} {comment : Comment}
    (settled : Settled read comment) (line : List Char) : Settled (read ++ [line]) comment := by
  cases settled with
  | run before block after whole run =>
      exact .run before block (after ++ [line]) (by rw [whole, List.append_assoc]) run
  | doc before block after whole doc closed =>
      exact .doc before block (after ++ [line]) (by rw [whole, List.append_assoc]) doc closed

theorem Settled.endLine_le {read : List (List Char)} {comment : Comment}
    (settled : Settled read comment) : comment.endLine ≤ read.length := by
  cases settled with
  | run _ _ _ whole run =>
      rw [run.endLine, whole, List.length_append, List.length_append]
      omega
  | doc _ _ _ whole doc closed =>
      rw [doc.endLine, whole, List.length_append, List.length_append]
      omega

/-! ### The order of comments -/

/-- No two comments share a line, and they come in the order of their lines. -/
def Ordered (comments : List Comment) : Prop :=
  comments.Pairwise fun first second => first.endLine < second.startLine

theorem Ordered.append {comments : List Comment} {comment : Comment} (ordered : Ordered comments)
    (later : ∀ other ∈ comments, other.endLine < comment.startLine) :
    Ordered (comments ++ [comment]) :=
  List.pairwise_append.mpr ⟨ordered, List.pairwise_singleton _ _, fun other member last isLast => by
    rw [List.mem_singleton.mp isLast]
    exact later other member⟩

theorem Ordered.init {comments : List Comment} {comment : Comment}
    (ordered : Ordered (comments ++ [comment])) : Ordered comments :=
  (List.pairwise_append.mp ordered).1

/-- Where the last comment ends does not matter. -/
theorem Ordered.replace {comments : List Comment} {comment other : Comment}
    (ordered : Ordered (comments ++ [comment])) (same : other.startLine = comment.startLine) :
    Ordered (comments ++ [other]) :=
  ordered.init.append fun earlier member => by
    rw [same]
    exact (List.pairwise_append.mp ordered).2.2 earlier member comment (List.mem_singleton_self _)

/-- A comment that starts on the next line lies behind all finished ones. -/
theorem Ordered.append_next {read : List (List Char)} {done : List Comment} {comment : Comment}
    (ordered : Ordered done) (settled : ∀ other ∈ done, Settled read other)
    (next : comment.startLine = read.length + 1) : Ordered (done ++ [comment]) :=
  ordered.append fun other member => by
    have bound := (settled other member).endLine_le
    omega

theorem settled_append {read : List (List Char)} {done : List Comment}
    (settled : ∀ other ∈ done, Settled read other) {comment : Comment}
    (last : Settled read comment) : ∀ other ∈ done ++ [comment], Settled read other := by
  intro other member
  rcases List.mem_append.mp member with earlier | isLast
  · exact settled other earlier
  · rw [List.mem_singleton.mp isLast]
    exact last

/-! ### The invariant -/

/-- **What holds when the lines `read` have been read**: of the state of the lexer, the state of the
aggregator and the comments handed out. -/
inductive Progress (read : List (List Char)) : Lexer → Aggregator → List Comment → Prop where
  /-- No comment is unfinished. -/
  | idle {state : Lexer} {done : List Comment} (outside : state.inDoc = false)
      (settled : ∀ comment ∈ done, Settled read comment) (ordered : Ordered done) :
      Progress read state {} done
  /-- A run can still grow. -/
  | growing {state : Lexer} {done : List Comment} (comment : Comment)
      (before block after : List (List Char)) (outside : state.inDoc = false)
      (settled : ∀ comment ∈ done, Settled read comment) (ordered : Ordered (done ++ [comment]))
      (whole : read = before ++ block ++ after) (run : RunOn before block comment) :
      Progress read state (.growing comment) done
  /-- A document is open, up to the last line read. -/
  | inBlock {state : Lexer} {done : List Comment} (comment : Comment)
      (before block : List (List Char)) (inside : state.inDoc = true)
      (program : state.inData = false) (quiet : state.heredocs = [])
      (settled : ∀ comment ∈ done, Settled read comment) (ordered : Ordered (done ++ [comment]))
      (whole : read = before ++ block) (doc : DocOn before block comment)
      (opened : OpenDocLines block) : Progress read state (.inBlock comment) done

variable {read : List (List Char)} {state next : Lexer} {aggregator : Aggregator}
  {done : List Comment}

theorem Progress.docSettled (progress : Progress read state aggregator done) :
    state.DocSettled := by
  intro inside
  cases progress with
  | idle outside => exact absurd inside (Bool.eq_false_iff.mp outside)
  | growing _ _ _ _ outside => exact absurd inside (Bool.eq_false_iff.mp outside)
  | inBlock _ _ _ _ program quiet => exact ⟨program, quiet⟩

theorem settled_read_append (settled : ∀ comment ∈ done, Settled read comment)
    (line : List Char) : ∀ comment ∈ done, Settled (read ++ [line]) comment :=
  fun comment member => (settled comment member).append line

/-- With nothing unfinished, only the comments handed out matter. -/
theorem Progress.of_idle (progress : Progress read state {} done) :
    (∀ comment ∈ done, Settled read comment) ∧ Ordered done := by
  generalize pending : ({} : Aggregator) = aggregator at progress
  cases progress with
  | idle _ settled ordered => exact ⟨settled, ordered⟩
  | growing => cases pending
  | inBlock => cases pending

/-- A run that will not grow any more counts as finished. -/
theorem Progress.handOut {comment : Comment}
    (progress : Progress read state (.growing comment) done) :
    Progress read state {} (done ++ [comment]) := by
  generalize pending : Aggregator.growing comment = aggregator at progress
  cases progress with
  | idle => cases pending
  | growing comment before block after outside settled ordered whole run =>
      cases pending
      exact .idle outside (settled_append settled (.run before block after whole run)) ordered
  | inBlock => cases pending

/-- A line without a comment changes nothing but the lines read. -/
theorem Progress.silent (progress : Progress read state aggregator done) (line : List Char)
    (outside : state.inDoc = false) (stays : next.inDoc = false) :
    Progress (read ++ [line]) next aggregator done := by
  cases progress with
  | idle _ settled ordered => exact .idle stays (settled_read_append settled line) ordered
  | growing comment before block after _ settled ordered whole run =>
      refine .growing comment before block (after ++ [line]) stays
        (settled_read_append settled line) ordered ?_ run
      rw [whole, List.append_assoc]
  | inBlock _ _ _ inside => exact absurd inside (Bool.eq_false_iff.mp outside)

/-! ### The five outcomes keep it -/

/-- With nothing unfinished, a line comment starts a run. -/
theorem Progress.comment_idle (progress : Progress read state {} done)
    (stays : next.inDoc = false) (before after : List Char) :
    Progress (read ++ [before ++ '#' :: after]) next
      (.growing (.ofFragment (String.ofList ('#' :: after)) (read.length + 1) (byteLength before)))
      done := by
  obtain ⟨settled, ordered⟩ := progress.of_idle
  refine .growing _ read [before ++ '#' :: after] [] stays (settled_read_append settled _)
    (ordered.append_next settled rfl) ?_ (.single read before after)
  rw [List.append_nil]

/-- **A line comment** joins the run on the lines right before it, or starts the next one. -/
theorem Progress.comment (progress : Progress read state aggregator done)
    (outside : state.inDoc = false) (stays : next.inDoc = false) (before after : List Char)
    {event : Event} (isComment : event = .lineComment (String.ofList ('#' :: after))
      (read.length + 1) (byteLength before)) :
    Progress (read ++ [before ++ '#' :: after]) next (aggregator.push event).1
      (done ++ (aggregator.push event).2.toList) := by
  have fragment : event.isFragment = true := by rw [isComment]; rfl
  have fresh : ({} : Aggregator).push event = (.growing (.ofFragment (String.ofList ('#' :: after))
      (read.length + 1) (byteLength before)), none) := by
    rw [Aggregator.push_fragment fragment, isComment]
    rfl
  have handedOut := progress
  cases progress with
  | idle =>
      rw [fresh, Option.toList_none, List.append_nil]
      exact handedOut.comment_idle stays before after
  | growing comment above block below _ settled ordered whole run =>
      by_cases joins : event.line = comment.endLine + 1 ∧ event.column = comment.column
      · obtain ⟨follows, aligned⟩ := joins
        rw [Aggregator.push_growing_next fragment follows aligned]
        subst isComment
        -- The run ends on the last line read, so nothing lies behind it.
        have reach : read.length = above.length + block.length := by
          have line : read.length + 1 = comment.endLine + 1 := follows
          rw [run.endLine] at line
          omega
        have nothing : below = [] := by
          rw [whole, List.length_append, List.length_append] at reach
          exact List.eq_nil_of_length_eq_zero (by omega)
        rw [nothing, List.append_nil] at whole
        simp only [Event.text, Event.line, Option.toList_none, List.append_nil, reach]
        refine .growing _ above (block ++ [before ++ '#' :: after]) [] stays
          (settled_read_append settled _) (ordered.replace rfl) ?_ (run.extend before after aligned)
        rw [whole, List.append_nil, List.append_assoc]
      · rw [Aggregator.push_growing_apart fun both => joins both.2, fresh]
        exact handedOut.handOut.comment_idle stays before after
  | inBlock _ _ _ inside => exact absurd inside (Bool.eq_false_iff.mp outside)

/-- With nothing unfinished, a marker opens a document. -/
theorem Progress.opening_idle (progress : Progress read state {} done) {line : List Char}
    (program : state.inData = false) (quiet : state.heredocs = [])
    (marker : opensDoc line = true) :
    Progress (read ++ [line]) { state with inDoc := true }
      (.inBlock (.ofFragment (String.ofList line) (read.length + 1) 0)) done := by
  obtain ⟨settled, ordered⟩ := progress.of_idle
  exact .inBlock _ read [line] rfl program quiet (settled_read_append settled line)
    (ordered.append_next settled rfl) rfl (.single read line) ⟨line, [], rfl, marker, by simp⟩

/-- **An opening marker** ends a run and opens a document. -/
theorem Progress.opening (progress : Progress read state aggregator done)
    (outside : state.inDoc = false) (program : state.inData = false)
    (quiet : state.heredocs = []) {line : List Char} (marker : opensDoc line = true) {event : Event}
    (isBegin : event = .docBegin (String.ofList line) (read.length + 1) 0) :
    Progress (read ++ [line]) { state with inDoc := true } (aggregator.push event).1
      (done ++ (aggregator.push event).2.toList) := by
  have fresh : ({} : Aggregator).push event =
      (.inBlock (.ofFragment (String.ofList line) (read.length + 1) 0), none) := by
    rw [isBegin]
    rfl
  have handedOut := progress
  cases progress with
  | idle =>
      rw [fresh, Option.toList_none, List.append_nil]
      exact handedOut.opening_idle program quiet marker
  | growing =>
      rw [Aggregator.push_growing_apart (by simp [isBegin, Event.isFragment]), fresh]
      exact handedOut.handOut.opening_idle program quiet marker
  | inBlock _ _ _ within => exact absurd within (Bool.eq_false_iff.mp outside)

/-- **A line of the open document** is added to it. -/
theorem Progress.body (progress : Progress read state aggregator done)
    (inside : state.inDoc = true) {line : List Char} (marker : closesDoc line = false)
    {event : Event} (isBody : event = .docBody (String.ofList line) (read.length + 1)) :
    Progress (read ++ [line]) state (aggregator.push event).1
      (done ++ (aggregator.push event).2.toList) := by
  subst isBody
  cases progress with
  | idle outside => exact absurd inside (Bool.eq_false_iff.mp outside)
  | growing _ _ _ _ outside => exact absurd inside (Bool.eq_false_iff.mp outside)
  | inBlock comment before block _ program quiet settled ordered whole doc opened =>
      have reach : read.length = before.length + block.length := by rw [whole, List.length_append]
      rw [Aggregator.push_inBlock comment rfl, Option.toList_none, List.append_nil]
      simp only [Event.text, Event.line, reach]
      refine .inBlock _ before (block ++ [line]) inside program quiet
        (settled_read_append settled line) (ordered.replace rfl) ?_ (doc.extend line)
        (opened.append marker)
      rw [whole, List.append_assoc]

/-- **A closing marker** finishes the open document. -/
theorem Progress.closing (progress : Progress read state aggregator done)
    (inside : state.inDoc = true) (outside : next.inDoc = false) {line : List Char}
    (marker : closesDoc line = true) {event : Event}
    (isEnd : event = .docEnd (String.ofList line) (read.length + 1)) :
    Progress (read ++ [line]) next (aggregator.push event).1
      (done ++ (aggregator.push event).2.toList) := by
  subst isEnd
  cases progress with
  | idle outside => exact absurd inside (Bool.eq_false_iff.mp outside)
  | growing _ _ _ _ outside => exact absurd inside (Bool.eq_false_iff.mp outside)
  | inBlock comment before block _ program quiet settled ordered whole doc opened =>
      have reach : read.length = before.length + block.length := by rw [whole, List.length_append]
      rw [Aggregator.push_inBlock_end comment rfl, Option.toList_some]
      simp only [Event.text, Event.line, reach]
      refine .idle outside (settled_append (settled_read_append settled line) ?_)
        (ordered.replace rfl)
      refine .doc before (block ++ [line]) [] ?_ (doc.extend line)
        ⟨block, line, rfl, opened, marker⟩
      rw [whole, List.append_nil, List.append_assoc]

/-- **One line keeps the invariant.** -/
theorem Progress.step (progress : Progress read state aggregator done) (line : List Char)
    {result : Lexer × Option Event} (outcome : state.Outcome line (read.length + 1) result) :
    Progress (read ++ [line]) result.1 (aggregator.pushAll result.2.toList).1
      (done ++ (aggregator.pushAll result.2.toList).2) := by
  have single : ∀ event : Event, aggregator.pushAll [event] =
      ((aggregator.push event).1, (aggregator.push event).2.toList) :=
    fun event => by simp [Aggregator.pushAll]
  cases outcome with
  | silent outside stays => simpa [Aggregator.pushAll] using progress.silent line outside stays
  | comment outside stays split =>
      rw [Option.toList_some, single, split]
      exact progress.comment outside stays _ _ rfl
  | opening outside program quiet marker =>
      rw [Option.toList_some, single]
      exact progress.opening outside program quiet marker rfl
  | body inside marker =>
      rw [Option.toList_some, single]
      exact progress.body inside marker rfl
  | closing inside marker =>
      rw [Option.toList_some, single]
      exact progress.closing inside rfl marker rfl

/-- **Any number of lines keep the invariant.** -/
theorem Progress.run (progress : Progress read state aggregator done) (rest : List (List Char)) :
    ∃ last, Progress (read ++ rest) last
      (aggregator.pushAll (lexer.run state (read.length + 1) rest).2).1
      (done ++ (aggregator.pushAll (lexer.run state (read.length + 1) rest).2).2) := by
  induction rest generalizing read state aggregator done with
  | nil => exact ⟨state, by simpa [LineLexer.run, Aggregator.pushAll] using progress⟩
  | cons line others ih =>
      have outcome := Lexer.readLine_outcome progress.docSettled line (read.length + 1)
      obtain ⟨last, whole⟩ := ih (progress.step line outcome)
      refine ⟨last, ?_⟩
      rw [List.append_assoc, List.append_assoc, List.length_append, List.length_singleton] at whole
      rw [run_cons, Aggregator.pushAll_append]
      exact whole

/-! ### The comments of a whole source -/

/-- A comment of a source: it is finished, or it is the document that is open at the end. -/
def Found (source : List (List Char)) (comment : Comment) : Prop :=
  Settled source comment ∨
    ∃ before block, source = before ++ block ∧ DocOn before block comment ∧ OpenDocLines block

/-- At the end the unfinished comment is handed out. -/
theorem Progress.finish (progress : Progress read state aggregator done) :
    (∀ comment ∈ done ++ aggregator.finish.2.toList, Found read comment) ∧
      Ordered (done ++ aggregator.finish.2.toList) := by
  cases progress with
  | idle _ settled ordered =>
      have nothing : done ++ ({} : Aggregator).finish.2.toList = done := List.append_nil done
      rw [nothing]
      exact ⟨fun comment member => .inl (settled comment member), ordered⟩
  | growing comment before block after _ settled ordered whole run =>
      exact ⟨fun other member => .inl (settled_append settled (.run before block after whole run)
        other member), ordered⟩
  | inBlock comment before block _ _ _ settled ordered whole doc opened =>
      refine ⟨fun other member => ?_, ordered⟩
      rcases List.mem_append.mp member with earlier | last
      · exact .inl (settled other earlier)
      · rw [List.mem_singleton.mp last]
        exact .inr ⟨before, block, whole, doc, opened⟩

/-- The invariant at the end of a source. -/
theorem extractComments_found (source : String) :
    (∀ comment ∈ extractComments source, Found (lines source.toList) comment) ∧
      Ordered (extractComments source) := by
  have start : Progress [] lexer.initial {} [] :=
    .idle (by simp [lexer]) (by simp) List.Pairwise.nil
  obtain ⟨last, whole⟩ := start.run (lines source.toList)
  exact whole.finish

/-- The comment is a run: on each of its lines a comment sign stands in its column, and its text is
what these lines hold from there on. -/
def IsLineRun (source : List (List Char)) (comment : Comment) : Prop :=
  (∀ line ∈ linesBetween source comment.startLine comment.endLine, HashAt comment.column line) ∧
    comment.text.toList = ((linesBetween source comment.startLine comment.endLine).map
      (dropBytes comment.column)).flatten

/-- The comment is a document: its first line opens it, no line closes it before the last one, which
does unless the source ends there, and its text is the whole lines. -/
structure IsDocBlock (source : List (List Char)) (comment : Comment) : Prop where
  margin : comment.column = 0
  opens : (lineAt? source comment.startLine).any opensDoc = true
  within : ∀ number, comment.startLine < number → number < comment.endLine →
    (lineAt? source number).any closesDoc = false
  closes : comment.endLine ≠ source.length →
    (lineAt? source comment.endLine).any closesDoc = true
  text : comment.text.toList =
    (linesBetween source comment.startLine comment.endLine).flatten

theorem StandsOn.linesBetween_eq {before block : List (List Char)} {comment : Comment}
    (stands : StandsOn before block comment) (after : List (List Char)) :
    linesBetween (before ++ block ++ after) comment.startLine comment.endLine = block := by
  rw [stands.startLine, stands.endLine, linesBetween_append]

theorem StandsOn.bounds {before block : List (List Char)} {comment : Comment}
    (stands : StandsOn before block comment) (after : List (List Char)) :
    1 ≤ comment.startLine ∧ comment.startLine ≤ comment.endLine ∧
      comment.endLine ≤ (before ++ block ++ after).length := by
  have positive := List.length_pos_iff.mpr stands.nonempty
  rw [stands.startLine, stands.endLine, List.length_append, List.length_append]
  omega

theorem lineAt?_append {before block : List (List Char)} (after : List (List Char)) {index : Nat}
    (inside : index < block.length) :
    lineAt? (before ++ block ++ after) (before.length + 1 + index) = block[index]? := by
  rw [lineAt?, List.append_assoc, List.getElem?_append_right (by omega),
    List.getElem?_append_left (by omega)]
  congr 1
  omega

theorem RunOn.isLineRun {before block : List (List Char)} {comment : Comment}
    (run : RunOn before block comment) (after : List (List Char)) :
    IsLineRun (before ++ block ++ after) comment := by
  rw [IsLineRun, run.linesBetween_eq]
  exact ⟨run.signs, run.text⟩

/-- The markers of the lines `block` make a document of its comment. -/
theorem DocOn.isDocBlock {before block : List (List Char)} {comment : Comment}
    (doc : DocOn before block comment) (after : List (List Char))
    (opens : (block[0]?).any opensDoc = true)
    (within : ∀ index, 0 < index → index + 1 < block.length → (block[index]?).any closesDoc = false)
    (closes : after ≠ [] → (block[block.length - 1]?).any closesDoc = true) :
    IsDocBlock (before ++ block ++ after) comment where
  margin := doc.margin
  opens := by
    have positive := List.length_pos_iff.mpr doc.nonempty
    rw [doc.startLine, ← Nat.add_zero (before.length + 1), lineAt?_append after positive]
    exact opens
  within number above below := by
    rw [doc.startLine] at above
    rw [doc.endLine] at below
    obtain ⟨index, rfl⟩ := Nat.exists_eq_add_of_lt above
    rw [Nat.add_assoc, lineAt?_append after (by omega)]
    exact within (index + 1) (by omega) (by omega)
  closes early := by
    have positive := List.length_pos_iff.mpr doc.nonempty
    rw [doc.endLine, List.length_append, List.length_append] at early
    have more : after ≠ [] := fun none => early (by simp [none])
    have last : before.length + block.length = before.length + 1 + (block.length - 1) := by omega
    rw [doc.endLine, last, lineAt?_append after (by omega)]
    exact closes more
  text := by rw [doc.linesBetween_eq, doc.text]

theorem OpenDocLines.opens {block : List (List Char)} (opened : OpenDocLines block) :
    (block[0]?).any opensDoc = true := by
  obtain ⟨opening, body, rfl, marker, _⟩ := opened
  exact marker

theorem OpenDocLines.within {block : List (List Char)} (opened : OpenDocLines block) {index : Nat}
    (positive : 0 < index) : (block[index]?).any closesDoc = false := by
  obtain ⟨opening, body, rfl, _, within⟩ := opened
  obtain ⟨rest, rfl⟩ := Nat.exists_eq_add_of_lt positive
  rw [Nat.zero_add, List.getElem?_cons_succ]
  cases found : body[rest]? with
  | none => rfl
  | some line => exact within line (List.mem_of_getElem? found)

theorem ClosedDocLines.isDocBlock {before block : List (List Char)} {comment : Comment}
    (closed : ClosedDocLines block) (doc : DocOn before block comment)
    (after : List (List Char)) : IsDocBlock (before ++ block ++ after) comment := by
  obtain ⟨opened, closing, rfl, isOpen, marker⟩ := closed
  have positive : 0 < opened.length := by
    obtain ⟨opening, body, rfl, _⟩ := isOpen
    exact Nat.succ_pos _
  refine doc.isDocBlock after ?_ (fun index above below => ?_) (fun _ => ?_)
  · rw [List.getElem?_append_left positive]
    exact isOpen.opens
  · rw [List.length_append, List.length_singleton] at below
    rw [List.getElem?_append_left (by omega)]
    exact isOpen.within above
  · rw [List.length_append, List.length_singleton, Nat.add_sub_cancel, List.getElem?_concat_length]
    exact marker

/-- **The comments of a source are faithful to it.**  Each lies within the lines of the source and
is a run or a document on its lines, and no line belongs to two of them. -/
theorem extractComments_faithful (source : String) :
    (∀ comment ∈ extractComments source,
      1 ≤ comment.startLine ∧ comment.startLine ≤ comment.endLine ∧
        comment.endLine ≤ (lines source.toList).length ∧
        (IsLineRun (lines source.toList) comment ∨ IsDocBlock (lines source.toList) comment)) ∧
      (extractComments source).Pairwise fun first second => first.endLine < second.startLine := by
  obtain ⟨found, ordered⟩ := extractComments_found source
  refine ⟨fun comment member => ?_, ordered⟩
  rcases found comment member with settled | ⟨before, block, whole, doc, opened⟩
  · cases settled with
    | run before block after whole run =>
        rw [whole]
        obtain ⟨first, order, last⟩ := run.bounds after
        exact ⟨first, order, last, .inl (run.isLineRun after)⟩
    | doc before block after whole doc closed =>
        rw [whole]
        obtain ⟨first, order, last⟩ := doc.bounds after
        exact ⟨first, order, last, .inr (closed.isDocBlock doc after)⟩
  · rw [whole, ← List.append_nil (before ++ block)]
    obtain ⟨first, order, last⟩ := doc.bounds []
    refine ⟨first, order, last, .inr (doc.isDocBlock [] opened.opens ?_ ?_)⟩
    · exact fun index above _ => opened.within above
    · exact fun more => absurd rfl more

end Marginalia.Ruby
