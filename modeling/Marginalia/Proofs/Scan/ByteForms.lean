/-
**The comments of a file do not depend on its encoding.**

A text can stand in a file in four forms: as UTF-8, with a mark or without, and as UTF-16 behind the
mark of either order (`ByteForm.bytes`).

* `decode_form`: whichever form it is, the text is read back.  The one way to go wrong is a text
  whose own first bytes are a mark (`detect_encode`): those of UTF-8 are the first character of the
  text, and those of UTF-16 are no bytes of UTF-8.
* `looksBinary_form`: no form of a text without a null character is taken for binary.  The zero bytes
  of UTF-16 do not count, because its mark is seen first.
* `Found.startsInColumn`: a column counts the bytes of UTF-8 before the comment, since it is found in the text
  and not in the bytes of the file.
-/

import Marginalia.Proofs.Ruby.Faithful
import Marginalia.Proofs.Text.Utf16
import Marginalia.Scan.FileComments

namespace Marginalia.Source

open Marginalia.Text

/-! ### Forms of a text -/

/-- The forms in which a file can hold a text. -/
inductive ByteForm where
  | plain
  | marked
  | utf16 (order : Utf16.ByteOrder)
deriving Repr, DecidableEq

namespace ByteForm

def encoding : ByteForm → Encoding
  | plain | marked => .utf8
  | utf16 order => .utf16 order

/-- The bytes in front of the text. -/
def mark : ByteForm → Bytes
  | plain => []
  | marked => [0xef, 0xbb, 0xbf]
  | utf16 .bigEndian => [0xfe, 0xff]
  | utf16 .littleEndian => [0xff, 0xfe]

/-- The bytes of the text itself. -/
def body (text : String) : ByteForm → Bytes
  | plain | marked => text.toUTF8.data.toList
  | utf16 order => Utf16.encode order text.toList

def bytes (form : ByteForm) (text : String) : Bytes :=
  form.mark ++ form.body text

end ByteForm

/-! ### Which encoding is seen -/

theorem detect_utf8Mark (rest : Bytes) : Encoding.detect (utf8Mark ++ rest) = (.utf8, 3) := by
  have seen : utf8Mark.isPrefixOf (utf8Mark ++ rest) = true :=
    List.isPrefixOf_iff_prefix.mpr (List.prefix_append ..)
  rw [Encoding.detect, if_pos seen]

theorem detect_utf16Mark (order : Utf16.ByteOrder) (rest : Bytes) :
    Encoding.detect (utf16Mark order ++ rest) = (.utf16 order, 2) := by
  -- The marks differ in their first bytes.
  cases order <;> rfl

theorem ByteForm.mark_utf16 (order : Utf16.ByteOrder) :
    (ByteForm.utf16 order).mark = utf16Mark order := by
  cases order <;> rfl

/-- The mark of UTF-8 is a character of its own. -/
theorem decode_utf8Mark (rest : Bytes) :
    Utf8.decode (utf8Mark ++ rest) = '\ufeff' :: Utf8.decode rest := by
  have bytes : utf8Mark = Utf8.encodeChar '\ufeff' := rfl
  rw [bytes, Utf8.decode_encodeChar_append]

variable {text : List Char}

theorem utf8Mark_unseen (noMark : text.head? ≠ some '\ufeff') :
    ¬ utf8Mark <+: Utf8.encode text := by
  rintro ⟨rest, same⟩
  have whole : text = '\ufeff' :: Utf8.decode rest := by
    rw [← decode_utf8Mark, same, Utf8.decode_encode]
  exact noMark (by rw [whole, List.head?_cons])

theorem utf16Mark_unseen (noNull : '\x00' ∉ text) (order : Utf16.ByteOrder) :
    ¬ utf16Mark order <+: Utf8.encode text := by
  intro seen
  obtain ⟨first, second, mark, great⟩ :
      ∃ first second, utf16Mark order = [first, second] ∧ 0xf8 ≤ first.toNat := by
    cases order
    · exact ⟨0xfe, 0xff, rfl, by decide⟩
    · exact ⟨0xff, 0xfe, rfl, by decide⟩
  have member : first ∈ Utf8.encode text := seen.subset (by simp [mark])
  have small := (Utf8.encode_bounds noNull member).2
  omega

/-- **No text is taken for one behind a mark**, unless it starts with the mark itself. -/
theorem detect_encode (noNull : '\x00' ∉ text) (noMark : text.head? ≠ some '\ufeff') :
    Encoding.detect (Utf8.encode text) = (.utf8, 0) := by
  rw [Encoding.detect, if_neg, if_neg, if_neg]
  · exact mt List.isPrefixOf_iff_prefix.mp (utf16Mark_unseen noNull _)
  · exact mt List.isPrefixOf_iff_prefix.mp (utf16Mark_unseen noNull _)
  · exact mt List.isPrefixOf_iff_prefix.mp (utf8Mark_unseen noMark)

/-- **The mark of every form is seen.** -/
theorem detect_form {text : String} (noNull : '\x00' ∉ text.toList)
    (noMark : text.toList.head? ≠ some '\ufeff') (form : ByteForm) :
    Encoding.detect (form.bytes text) = (form.encoding, form.mark.length) := by
  match form with
  | .plain =>
      rw [ByteForm.bytes, ByteForm.body, ← Utf8.encode_toList]
      exact detect_encode noNull noMark
  | .marked => exact detect_utf8Mark _
  | .utf16 .bigEndian => exact detect_utf16Mark .bigEndian _
  | .utf16 .littleEndian => exact detect_utf16Mark .littleEndian _

/-! ### What is read from a form -/

theorem decode_body (text : String) (form : ByteForm) :
    form.encoding.decode (form.body text) = text.toList := by
  cases form with
  | plain | marked =>
      rw [ByteForm.encoding, Encoding.decode, ByteForm.body, ← Utf8.encode_toList,
        Utf8.decode_encode]
  | utf16 order => exact Utf16.decode_encode order text.toList

/-- **Every form is read as its text.** -/
theorem decode_form {text : String} (noNull : '\x00' ∉ text.toList)
    (noMark : text.toList.head? ≠ some '\ufeff') (form : ByteForm) :
    decode (form.bytes text) = text := by
  rw [decode, detect_form noNull noMark, ByteForm.bytes]
  simp only [List.drop_left, decode_body, String.ofList_toList]

/-- **No form is taken for binary.** -/
theorem looksBinary_form {text : String} (noNull : '\x00' ∉ text.toList)
    (noMark : text.toList.head? ≠ some '\ufeff') (form : ByteForm) :
    looksBinary (form.bytes text) = false := by
  have nonzero : (0 : UInt8) ∉ text.toUTF8.data.toList := by
    rw [← Utf8.encode_toList]
    exact fun member => (Utf8.encode_bounds noNull member).1 rfl
  rw [looksBinary, detect_form noNull noMark]
  cases form with
  | plain | marked =>
      simp only [ByteForm.encoding, List.contains_eq_mem, decide_eq_false_iff_not]
      intro member
      rcases List.mem_append.mp (List.mem_of_mem_take member) with inMark | inText
      · exact absurd inMark (by decide)
      · exact nonzero inText
  | utf16 order => rfl

end Marginalia.Source

namespace Marginalia.Ruby

open Marginalia.Text

/-! ### Columns -/

/-- The column of the comment is the number of bytes of UTF-8 that stand before it on its first line;
the rest of the line belongs to it. -/
def StartsInColumn (source : List (List Char)) (comment : Comment) : Prop :=
  ∃ before after, lineAt? source comment.startLine = some (before ++ after) ∧ after ≠ [] ∧
    after <+: comment.text.toList ∧ comment.column = (String.ofList before).toUTF8.size

theorem size_toUTF8 (text : List Char) : (String.ofList text).toUTF8.size = byteLength text := by
  have bytes := Utf8.encode_toList (String.ofList text)
  rw [String.toList_ofList] at bytes
  rw [← Utf8.length_encode, bytes, Array.length_toList, ByteArray.size_data]

theorem StandsOn.firstLine {before block : List (List Char)} {comment : Comment}
    (stands : StandsOn before block comment) (after : List (List Char)) :
    ∃ first rest, block = first :: rest ∧
      lineAt? (before ++ block ++ after) comment.startLine = some first := by
  obtain ⟨first, rest, rfl⟩ := List.exists_cons_of_ne_nil stands.nonempty
  refine ⟨first, rest, rfl, ?_⟩
  rw [stands.startLine, ← Nat.add_zero (before.length + 1), lineAt?_append after (by simp)]
  rfl

theorem RunOn.startsInColumn {before block : List (List Char)} {comment : Comment}
    (run : RunOn before block comment) (after : List (List Char)) :
    StartsInColumn (before ++ block ++ after) comment := by
  obtain ⟨first, rest, rfl, here⟩ := run.firstLine after
  obtain ⟨front, sign, rfl, column⟩ := run.signs first (List.mem_cons_self ..)
  refine ⟨front, '#' :: sign, here, List.cons_ne_nil _ _, ?_, ?_⟩
  · rw [run.text, List.map_cons, List.flatten_cons, ← column, dropBytes_byteLength]
    exact List.prefix_append ..
  · rw [size_toUTF8, column]

theorem DocOn.startsInColumn {before block : List (List Char)} {comment : Comment}
    (doc : DocOn before block comment) (opens : (block[0]?).any opensDoc = true)
    (after : List (List Char)) : StartsInColumn (before ++ block ++ after) comment := by
  obtain ⟨first, rest, rfl, here⟩ := doc.firstLine after
  refine ⟨[], first, here, ?_, ?_, ?_⟩
  · rintro rfl
    have noMarker : opensDoc [] = false := rfl
    rw [List.getElem?_cons_zero, Option.any_some, noMarker] at opens
    exact Bool.false_ne_true opens
  · rw [doc.text, List.flatten_cons]
    exact List.prefix_append ..
  · rw [size_toUTF8, doc.margin, byteLength_nil]

theorem Found.startsInColumn {source : List (List Char)} {comment : Comment}
    (found : Found source comment) : StartsInColumn source comment := by
  rcases found with settled | ⟨before, block, rfl, doc, opened⟩
  · cases settled with
    | run before block after whole run =>
        rw [whole]
        exact run.startsInColumn after
    | doc before block after whole doc closed =>
        rw [whole]
        obtain ⟨opened, closing, rfl, isOpen, _⟩ := closed
        obtain ⟨opening, body, rfl, marker, _⟩ := isOpen
        exact doc.startsInColumn marker after
  · rw [← List.append_nil (before ++ block)]
    exact doc.startsInColumn opened.opens []

end Marginalia.Ruby

namespace Marginalia.Scan

open Marginalia.Source (ByteForm)
open Marginalia.Text

/-- **The comments of a file are those of its text in whatever form it holds the text**, and their
columns count the bytes that the text has in UTF-8. -/
theorem ofBytes_form (path : Path) (size : Nat) {text : String} (noNull : '\x00' ∉ text.toList)
    (noMark : text.toList.head? ≠ some '\ufeff') (form : ByteForm) :
    FileComments.ofBytes path .ruby size (form.bytes text) =
        { path, fileType := .ruby, isBinary := false, size,
          comments := Ruby.extractComments text } ∧
      ∀ comment ∈ Ruby.extractComments text, Ruby.StartsInColumn (lines text.toList) comment := by
  constructor
  · rw [FileComments.ofBytes, Source.looksBinary_form noNull noMark,
      Source.decode_form noNull noMark]
    rfl
  · intro comment member
    exact ((Ruby.extractComments_found text).1 comment member).startsInColumn

/-- A comment behind a character of two bytes in UTF-8 and one of four, which is a pair in UTF-16. -/
theorem ofBytes_form_pair :
    ('\x00' ∉ "é😀#\n".toList ∧ "é😀#\n".toList.head? ≠ some '\ufeff') ∧
      (FileComments.ofBytes ⟨[0x61]⟩ .ruby 12
        [0xff, 0xfe, 0xe9, 0x00, 0x3d, 0xd8, 0x00, 0xde, 0x23, 0x00, 0x0a, 0x00]).comments =
        [⟨"#\n", 1, 1, 6⟩] := by
  have noNull : '\x00' ∉ "é😀#\n".toList := by decide
  have noMark : "é😀#\n".toList.head? ≠ some '\ufeff' := by decide
  have file := (ofBytes_form ⟨[0x61]⟩ 12 noNull noMark (.utf16 .littleEndian)).1
  have bytes : (ByteForm.utf16 .littleEndian).bytes "é😀#\n" =
      [0xff, 0xfe, 0xe9, 0x00, 0x3d, 0xd8, 0x00, 0xde, 0x23, 0x00, 0x0a, 0x00] := by
    decide +kernel
  have comments : Ruby.extractComments "é😀#\n" = [⟨"#\n", 1, 1, 6⟩] := by decide +kernel
  rw [bytes, comments] at file
  exact ⟨⟨noNull, noMark⟩, congrArg FileComments.comments file⟩

end Marginalia.Scan
