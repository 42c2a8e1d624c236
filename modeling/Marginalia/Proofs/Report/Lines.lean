/-
**A report of one JSON value per line can be read back.**

Every value stands on a line of its own, which has no line feed but the one at its end, so the lines
of a report are its values (`lines_writeLines`).  A line is read as JSON, and from that as what it
tells (`ReportLine`): the path and the comment that it is about, or the totals.

The numbers of a program have 64 bits.  Greater ones would be written just as well, but JSON readers
take them for something else, so results are taken to hold no others (`FitsWords`).
-/

import Marginalia.Comment.JsonForm
import Marginalia.Proofs.Json.RoundTrip
import Marginalia.Proofs.Text.Lines
import Marginalia.Report.Render

namespace Marginalia

/-- What a line of a report tells. -/
inductive ReportLine where
  /-- There is a comment in the file of the path. -/
  | comment (path : String) (comment : Comment)
  /-- How many files and how many comments there are. -/
  | total (files comments : Nat)
deriving Repr, DecidableEq

namespace ReportLine

/-- A field of an object that must be there. -/
def field (value : Json) (name : String) : Except DecodeError Json :=
  Json.required name (value.get? name)

/-- What a JSON value tells. -/
def ofJson (value : Json) : Except DecodeError ReportLine := do
  let kind ← (← field value "type").asVariant ["comment", "total"]
  if kind = "comment" then
    return .comment (← (← field value "path").asString) (← Comment.ofJson value)
  else
    return .total (← (← field value "files").asWord) (← (← field value "comments").asWord)

/-- What a line tells; `none` if it is not a line of a report. -/
def read? (line : List Char) : Option ReportLine :=
  (Json.parse? (String.ofList line)).bind fun value => (ofJson value).toOption

end ReportLine

/-- The numbers of a comment have at most 64 bits. -/
structure Comment.FitsWords (comment : Comment) : Prop where
  startLine : comment.startLine < Json.wordLimit
  endLine : comment.endLine < Json.wordLimit
  column : comment.column < Json.wordLimit

/-- The numbers of a result have at most 64 bits. -/
structure Scan.RunResult.FitsWords (result : RunResult) : Prop where
  comments : ∀ file ∈ result.files, ∀ comment ∈ file.comments, comment.FitsWords
  fileCount : result.files.length < Json.wordLimit
  commentCount : result.commentCount < Json.wordLimit

namespace Report

open Marginalia.Scan Marginalia.Text

/-! ### Lines and values -/

theorem lines_writeLines (result : RunResult) :
    lines (writeLines result) =
      (lineValues result).map fun value => value.writeCompact ++ ['\n'] := by
  have lined : ∀ values : List Json,
      Lined (values.map fun value => value.writeCompact ++ ['\n']) := by
    intro values
    induction values with
    | nil => exact .nil
    | cons value rest ih => exact .cons _ (Json.feed_not_mem_writeCompact value) ih
  unfold writeLines
  rw [List.flatMap_def]
  exact lines_flatten (lined (lineValues result))

theorem length_lineValues (result : RunResult) :
    (lineValues result).length = result.commentCount + 1 := by
  have counted : ∀ files : List FileComments, (files.flatMap fileLines).length =
      files.foldr (fun file total => file.commentCount + total) 0 := by
    intro files
    induction files with
    | nil => rfl
    | cons file rest ih =>
        rw [List.flatMap_cons, List.length_append, ih, fileLines, List.length_map]
        rfl
  rw [lineValues, List.length_append, counted]
  rfl

/-! ### Reading a value -/

theorem asWord_nat {value : Nat} (fits : value < Json.wordLimit) :
    (Json.nat value).asWord = .ok value := by
  show (if value < Json.wordLimit then _ else _) = _
  rw [if_pos fits]

theorem readMembers_text (names : List String) (fields : FieldReader) (text : String)
    (rest : Json.Members) :
    fields.readMembers names (("text", .str text) :: rest) =
      { fields with text := some text }.readMembers names rest := rfl

theorem readMembers_number {names : List String} {name : String}
    (known : names.contains name = true) (other : name ≠ "text") {value : Nat}
    (fits : value < Json.wordLimit) (fields : FieldReader) (rest : Json.Members) :
    fields.readMembers names ((name, .nat value) :: rest) =
      { fields with numbers := fields.numbers ++ [(name, value)] }.readMembers names rest := by
  rw [FieldReader.readMembers, if_neg other, if_pos known, asWord_nat fits]
  rfl

theorem readMembers_unknown {names : List String} {name : String}
    (unknown : names.contains name = false) (other : name ≠ "text") (fields : FieldReader)
    (value : Json) (rest : Json.Members) :
    fields.readMembers names ((name, value) :: rest) = fields.readMembers names rest := by
  rw [FieldReader.readMembers, if_neg other, if_neg (Bool.eq_false_iff.mp unknown)]

theorem ofJson_commentLine (path : String) {comment : Comment} (fits : comment.FitsWords) :
    ReportLine.ofJson (commentLine path comment) = .ok (.comment path comment) := by
  have read : Comment.ofJson (commentLine path comment) = .ok comment := by
    rw [commentLine, Comment.ofJson, readMembers_unknown (by decide) (by decide),
      readMembers_unknown (by decide) (by decide), readMembers_text,
      readMembers_number (by decide) (by decide) fits.startLine,
      readMembers_number (by decide) (by decide) fits.endLine,
      readMembers_number (by decide) (by decide) fits.column]
    rfl
  show (do return ReportLine.comment path (← Comment.ofJson (commentLine path comment))) = _
  rw [read]
  rfl

theorem ofJson_totalLine {result : RunResult} (fits : result.FitsWords) :
    ReportLine.ofJson (totalLine result) =
      .ok (.total result.files.length result.commentCount) := by
  show (do
    let files ← (Json.nat result.files.length).asWord
    let comments ← (Json.nat result.commentCount).asWord
    return ReportLine.total files comments) = _
  rw [asWord_nat fits.fileCount, asWord_nat fits.commentCount]
  rfl

theorem writable_commentLine (path : String) {comment : Comment} (fits : comment.FitsWords) :
    Json.Writable Json.nestingLimit (commentLine path comment) := by
  show Json.Writable (126 + 1) _
  refine .obj ?_ ?_
  · show ["type", "path", "text", "start_line", "end_line", "column"].Nodup
    decide
  · simp only [List.forall_mem_cons, List.not_mem_nil, false_implies, implies_true, and_true]
    exact ⟨.str _, .str _, .str _, .nat fits.startLine, .nat fits.endLine, .nat fits.column⟩

theorem writable_totalLine {result : RunResult} (fits : result.FitsWords) :
    Json.Writable Json.nestingLimit (totalLine result) := by
  show Json.Writable (126 + 1) _
  refine .obj ?_ ?_
  · show ["type", "version", "files", "comments"].Nodup
    decide
  · simp only [List.forall_mem_cons, List.not_mem_nil, false_implies, implies_true, and_true]
    exact ⟨.str _, .str _, .nat fits.fileCount, .nat fits.commentCount⟩

theorem read?_line {value : Json} {told : ReportLine}
    (writable : Json.Writable Json.nestingLimit value)
    (meaning : ReportLine.ofJson value = .ok told) :
    ReportLine.read? (value.writeCompact ++ ['\n']) = some told := by
  rw [ReportLine.read?, Json.parse?_line writable, Option.bind_some, meaning]
  rfl

/-! ### The report -/

/-- What a report is to tell: the comments of all files in their order, then the totals. -/
def toldLines (result : RunResult) : List ReportLine :=
  (result.files.flatMap fun file => file.comments.map (ReportLine.comment file.path.display)) ++
    [ReportLine.total result.files.length result.commentCount]

theorem map_read?_lines {result : RunResult} (fits : result.FitsWords) :
    (lines (writeLines result)).map ReportLine.read? = (toldLines result).map some := by
  have comments : ∀ file ∈ result.files,
      (fileLines file).map (fun value => ReportLine.read? (value.writeCompact ++ ['\n'])) =
        (file.comments.map (ReportLine.comment file.path.display)).map some := by
    intro file inside
    rw [fileLines, List.map_map, List.map_map]
    refine List.map_congr_left fun comment member => ?_
    have numbers := fits.comments file inside comment member
    rw [Function.comp_apply, Function.comp_apply]
    exact read?_line (writable_commentLine _ numbers) (ofJson_commentLine _ numbers)
  have total := read?_line (writable_totalLine fits) (ofJson_totalLine fits)
  rw [lines_writeLines, List.map_map, lineValues, toldLines, List.map_append, List.map_append,
    List.map_flatMap, List.map_flatMap, List.map_singleton, List.map_singleton, Function.comp_apply,
    total]
  exact congrArg (· ++ _) (List.flatMap_congr comments)

/-- **A report of one value per line can be read back.**  It has one line for each comment and one
more, and each line ends in the only line feed that it has.  The lines tell the path, the text and
the place of each comment, in the order of the files, and then the numbers of files and comments. -/
theorem render_jsonl (result : RunResult) :
    ∃ text, render .jsonl result = .ok text ∧
      (lines text.toList).length = result.commentCount + 1 ∧
      (∀ line ∈ lines text.toList, ∃ front, line = front ++ ['\n'] ∧ '\n' ∉ front) ∧
      (result.FitsWords →
        (lines text.toList).map ReportLine.read? = (toldLines result).map some) := by
  refine ⟨String.ofList (writeLines result), rfl, ?_, ?_, ?_⟩
  · rw [String.toList_ofList, lines_writeLines, List.length_map, length_lineValues]
  · intro line member
    rw [String.toList_ofList, lines_writeLines, List.mem_map] at member
    obtain ⟨value, -, rfl⟩ := member
    exact ⟨value.writeCompact, rfl, Json.feed_not_mem_writeCompact value⟩
  · intro fits
    rw [String.toList_ofList]
    exact map_read?_lines fits

/-- Two comments with quotation marks, backslashes, line feeds and other control characters, in files
whose paths have them as well or are not UTF-8. -/
def sampleResult : RunResult where
  files :=
    [{ path := .ofString "a\"\\b\n.rb", fileType := .ruby, size := 1,
       comments := [
         { text := "# \"\\\n# \x00\x1f\u2028😀\r\n", startLine := 1, endLine := 2, column := 0 }] },
     { path := ⟨[0xff, 0x2e, 0x72, 0x62]⟩, fileType := .ruby, size := 1,
       comments := [
         { text := "#", startLine := 3, endLine := 3, column := 18446744073709551615 }] }]

theorem render_jsonl_escapes : ∃ text, render .jsonl sampleResult = .ok text ∧
    (lines text.toList).map ReportLine.read? =
      [some (.comment "a\"\\b\n.rb"
          { text := "# \"\\\n# \x00\x1f\u2028😀\r\n", startLine := 1, endLine := 2, column := 0 }),
        some (.comment "\ufffd.rb"
          { text := "#", startLine := 3, endLine := 3, column := 18446744073709551615 }),
        some (.total 2 2)] := by
  have fits : sampleResult.FitsWords := by
    refine ⟨?_, by decide, by decide⟩
    simp only [sampleResult, List.forall_mem_cons, List.not_mem_nil, false_implies, implies_true,
      and_true]
    exact ⟨⟨by decide, by decide, by decide⟩, ⟨by decide, by decide, by decide⟩⟩
  obtain ⟨text, rendered, -, -, told⟩ := render_jsonl sampleResult
  refine ⟨text, rendered, (told fits).trans ?_⟩
  decide +kernel

end Report

end Marginalia
