/-
**The JSON forms of events and comments.**

An event is an object whose `kind` names the case; a comment is an object with its four fields, or
the list of their values.  Members that mean nothing are passed over.
-/

import Marginalia.Comment.Basic
import Marginalia.Comment.Event
import Marginalia.Json.Decode

namespace Marginalia

/-- The fields of an event or a comment that have been read so far. -/
structure FieldReader where
  text : Option String := none
  numbers : List (String × Nat) := []

namespace FieldReader

/-- Reads the members of an object in order: `text` as a string, each of `names` as a number. -/
def readMembers (names : List String) (fields : FieldReader) :
    List (String × Json) → Except DecodeError FieldReader
  | [] => .ok fields
  | (key, value) :: rest => do
    if key = "text" then
      let text ← value.asString
      readMembers names { fields with text := some text } rest
    else if names.contains key then
      let number ← value.asWord
      readMembers names { fields with numbers := fields.numbers ++ [(key, number)] } rest
    else readMembers names fields rest

/-- The text, which must have been read. -/
def requireText (fields : FieldReader) : Except DecodeError String :=
  Json.required "text" fields.text

/-- A number, which must have been read. -/
def requireNumber (fields : FieldReader) (name : String) : Except DecodeError Nat :=
  Json.required name (fields.numbers.lookup name)

/-- Reads the values of a list in the order of the fields: the text, then the numbers.  The text
`expected` says what a list that is too short should have been, and `shorter` what a list that is too
long should have been. -/
def readItems (names : List String) (expected shorter : String) :
    List Json → Except DecodeError FieldReader
  | [] => .error (.wrongLength 0 expected)
  | text :: rest => do
    let text ← text.asString
    let numbers ← go names 1 rest
    return { text := some text, numbers }
where
  go : List String → Nat → List Json → Except DecodeError (List (String × Nat))
    | [], _, [] => .ok []
    | [], count, _ :: rest => .error (.wrongLength (count + rest.length + 1) shorter)
    | _ :: _, count, [] => .error (.wrongLength count expected)
    | name :: names, count, value :: rest => do
      let number ← value.asWord
      let numbers ← go names (count + 1) rest
      return (name, number) :: numbers

end FieldReader

namespace Comment

/-- The names of the numbers of a comment. -/
def numberNames : List String := ["start_line", "end_line", "column"]

/-- A comment from the fields that have been read. -/
def ofFields (fields : FieldReader) : Except DecodeError Comment := do
  let text ← fields.requireText
  let startLine ← fields.requireNumber "start_line"
  let endLine ← fields.requireNumber "end_line"
  let column ← fields.requireNumber "column"
  return { text, startLine, endLine, column }

/-- Reads a comment. -/
def ofJson : Json → Except DecodeError Comment
  | .obj members => do ofFields (← FieldReader.readMembers numberNames {} members)
  | .arr items => do
    ofFields (← FieldReader.readItems numberNames "struct CommentRecord with 4 elements"
      "fewer elements in array" items)
  | other => .error (.wrongType other "struct CommentRecord")

/-- Writes a comment. -/
def toJson (comment : Comment) : Json :=
  .obj [("text", .str comment.text), ("start_line", .nat comment.startLine),
    ("end_line", .nat comment.endLine), ("column", .nat comment.column)]

end Comment

namespace Event

/-- The names of the cases of an event. -/
def kinds : List String := ["line_comment", "block_doc_begin", "block_doc_body", "block_doc_end"]

/-- The names of the numbers of an event of a kind. -/
def numberNames (kind : String) : List String :=
  if kind = "line_comment" || kind = "block_doc_begin" then ["line", "column"] else ["line"]

/-- An event of a kind from the fields that have been read. -/
def ofFields (kind : String) (fields : FieldReader) : Except DecodeError Event := do
  let text ← fields.requireText
  let line ← fields.requireNumber "line"
  if kind = "block_doc_body" then return .docBody text line
  if kind = "block_doc_end" then return .docEnd text line
  let column ← fields.requireNumber "column"
  if kind = "block_doc_begin" then return .docBegin text line column
  return .lineComment text line column

/-- Reads the name of a kind. -/
def kindOfJson : Json → Except DecodeError String
  | .str name => if kinds.contains name then .ok name else .error (.unknownVariant name kinds)
  | other => .error (.wrongType other "variant identifier")

/-- The name of the case in messages about a list. -/
def caseName (kind : String) : String :=
  if kind = "line_comment" then "LineComment"
  else if kind = "block_doc_begin" then "BlockDocBegin"
  else if kind = "block_doc_body" then "BlockDocBody"
  else "BlockDocEnd"

/-- The number of fields of an event of a kind, in the words of a message. -/
def elementCount (kind : String) : String :=
  toString ((numberNames kind).length + 1) ++ " elements"

/-- What a list of the fields of an event should have been. -/
def listForm (kind : String) : String :=
  "struct variant LexEvent::" ++ caseName kind ++ " with " ++ elementCount kind

/-- Reads an event. -/
def ofJson : Json → Except DecodeError Event
  | .obj members => do
    let kind ← kindOfJson (← Json.required "kind" (Json.Members.get? members "kind"))
    ofFields kind (← FieldReader.readMembers (numberNames kind) {} members)
  | .arr (kind :: items) => do
    let kind ← kindOfJson kind
    ofFields kind (← FieldReader.readItems (numberNames kind) (listForm kind)
      (elementCount kind ++ " in sequence") items)
  | .arr [] => .error (.missingField "kind")
  | other => .error (.wrongType other "internally tagged enum LexEvent")

/-- Writes an event. -/
def toJson : Event → Json
  | .lineComment text line column =>
    .obj [("kind", .str "line_comment"), ("text", .str text), ("line", .nat line),
      ("column", .nat column)]
  | .docBegin text line column =>
    .obj [("kind", .str "block_doc_begin"), ("text", .str text), ("line", .nat line),
      ("column", .nat column)]
  | .docBody text line =>
    .obj [("kind", .str "block_doc_body"), ("text", .str text), ("line", .nat line)]
  | .docEnd text line =>
    .obj [("kind", .str "block_doc_end"), ("text", .str text), ("line", .nat line)]

end Event

end Marginalia
