/-
**The document of a result can be read back.**

The entry of a file shows all there is to know about it but its size (`FileView`), and can be read
(`FileView.read?`): its comments stand under the numbers 0, 1, 2, …, which are no other keys of the
entry (`nodup_keys_fileMembers`).

Entries are put in under the paths as they are shown.  Faults with the same path share an entry,
which tells them in their order (`get?_foldl_addError`).  As long as every file is shown under a
path of its own (`ShownApart`), nothing is lost (`document_lossless`).
-/

import Marginalia.Proofs.Json.Members
import Marginalia.Report.Document

namespace Marginalia

open Marginalia.Scan

/-- A natural number; `none` for every other value. -/
def Json.number? : Json → Option Nat
  | .int (.ofNat value) => some value
  | _ => none

/-- A text; `none` for every other value. -/
def Json.text? : Json → Option String
  | .str value => some value
  | _ => none

namespace Report

open Marginalia.Json (Members)

/-! ### Reading an entry -/

/-- A text that may be missing. -/
def optionalText? : Option Json → Option (Option String)
  | none => some none
  | some value => value.text?.map some

/-- A mark that is there or not. -/
def mark? : Option Json → Option Bool
  | none => some false
  | some (.bool true) => some true
  | some _ => none

/-- Reads a comment in the entry of a file. -/
def readComment? (value : Json) : Option Comment := do
  let text ← (← value.get? "Text").text?
  let startLine ← (← value.get? "Line").number?
  let endLine ← (← value.get? "EndLine").number?
  let column ← (← value.get? "CharPositionInLine").number?
  return { text, startLine, endLine, column }

/-- Reads comments under consecutive numbers. -/
def readComments? (entry : Json) : Nat → Nat → Option (List Comment)
  | 0, _ => some []
  | count + 1, number => do
    let comment ← readComment? (← entry.get? (toString number))
    return comment :: (← readComments? entry count (number + 1))

/-- What the entry of a file shows. -/
structure FileView where
  fileType : FileType
  isBinary : Bool
  objectId : Option String
  /-- The text of the time at which the file last changed. -/
  lastModified : Option String
  comments : List Comment
deriving Repr, DecidableEq

namespace FileView

/-- What is to be shown of a file. -/
def ofFile (file : FileComments) : FileView where
  fileType := file.fileType
  isBinary := file.isBinary
  objectId := file.objectId
  lastModified := file.lastModified.map Timestamp.iso
  comments := file.comments

/-- Reads the entry of a file. -/
def read? (entry : Json) : Option FileView := do
  let fileType ← (FileType.ofJson (← entry.get? "FileType")).toOption
  let isBinary ← mark? (entry.get? "Binary")
  let objectId ← optionalText? (entry.get? "ObjectId")
  let lastModified ← optionalText? (entry.get? "LastModified")
  let count ← (← entry.get? "CommentCount").number?
  let comments ← readComments? entry count 0
  return { fileType, isBinary, objectId, lastModified, comments }

end FileView

/-! ### The keys of an entry -/

/-- Whether a key is a number. -/
def isNumeral (key : String) : Bool :=
  key ≠ "" && key.toList.all Char.isDigit

theorem isNumeral_toString (number : Nat) : isNumeral (toString number) = true := by
  unfold isNumeral
  rw [Nat.toString_eq_ofList_toDigits, String.toList_ofList, Bool.and_eq_true, decide_eq_true_eq,
    List.all_eq_true]
  refine ⟨?_, fun c member => Nat.isDigit_of_mem_toDigits (by decide) (by decide) member⟩
  intro empty
  exact Nat.toDigits_ne_nil (String.ofList_eq_empty_iff.mp empty)

theorem toString_injective : Function.Injective (toString : Nat → String) := by
  intro number other same
  rw [Nat.toString_eq_ofList_toDigits, Nat.toString_eq_ofList_toDigits, String.ofList_inj] at same
  rw [← Nat.ofDigitChars_ten_toDigits (n := number), same, Nat.ofDigitChars_ten_toDigits]

theorem keys_numberedComments (number : Nat) (comments : List Comment) :
    Members.keys (numberedComments number comments) =
      (List.range' number comments.length).map toString := by
  induction comments generalizing number with
  | nil => rfl
  | cons comment rest ih =>
      rw [numberedComments, Members.keys_cons, ih, List.length_cons, List.range'_succ,
        List.map_cons]

/-- The members of the entry of a file that stand before its comments. -/
def leadingMembers (file : FileComments) : Members :=
  (file.objectId.toList.map fun id => ("ObjectId", Json.str id)) ++
    (file.lastModified.toList.map fun time => ("LastModified", Json.str time.iso)) ++
    ("FileType", .str file.fileType.name) ::
      if file.isBinary then [("Binary", Json.bool true)] else []

/-- The members of the entry of a file. -/
def fileMembers (file : FileComments) : Members :=
  leadingMembers file ++ numberedComments 0 file.comments ++
    [("CommentCount", .nat file.commentCount)]

theorem fileEntry_eq (file : FileComments) : fileEntry file = .obj (fileMembers file) := rfl

theorem keys_leadingMembers (file : FileComments) :
    (Members.keys (leadingMembers file)).Sublist
      ["ObjectId", "LastModified", "FileType", "Binary"] := by
  have objectId : (Members.keys (file.objectId.toList.map
      fun id => ("ObjectId", Json.str id))).Sublist ["ObjectId"] := by
    cases file.objectId <;> simp
  have lastModified : (Members.keys (file.lastModified.toList.map
      fun time => ("LastModified", Json.str time.iso))).Sublist ["LastModified"] := by
    cases file.lastModified <;> simp
  have binary : (Members.keys (if file.isBinary then [("Binary", Json.bool true)] else [])).Sublist
      ["Binary"] := by
    cases file.isBinary <;> simp
  rw [leadingMembers, Members.keys_append, Members.keys_append, Members.keys_cons]
  exact (objectId.append lastModified).append (binary.cons_cons "FileType")

theorem isNumeral_leading {file : FileComments} {key : String}
    (member : key ∈ Members.keys (leadingMembers file)) : isNumeral key = false := by
  have named : ∀ name ∈ ["ObjectId", "LastModified", "FileType", "Binary"],
      isNumeral name = false := by
    decide
  exact named key ((keys_leadingMembers file).subset member)

theorem keys_fileMembers (file : FileComments) :
    Members.keys (fileMembers file) = Members.keys (leadingMembers file) ++
      (List.range file.commentCount).map toString ++ ["CommentCount"] := by
  rw [fileMembers, Members.keys_append, Members.keys_append, keys_numberedComments,
    ← List.range_eq_range']
  rfl

/-- **The numbers among the keys of an entry** are those of its comments, in order. -/
theorem filter_isNumeral_fileMembers (file : FileComments) :
    (Members.keys (fileMembers file)).filter isNumeral =
      (List.range file.commentCount).map toString := by
  have leading : (Members.keys (leadingMembers file)).filter isNumeral = [] := by
    rw [List.filter_eq_nil_iff]
    intro key member
    rw [isNumeral_leading member]
    exact Bool.false_ne_true
  have numbers : ((List.range file.commentCount).map toString).filter isNumeral =
      (List.range file.commentCount).map toString := by
    rw [List.filter_eq_self]
    rintro key member
    obtain ⟨number, -, rfl⟩ := List.mem_map.mp member
    exact isNumeral_toString number
  rw [keys_fileMembers, List.filter_append, List.filter_append, leading, numbers]
  exact List.append_nil _

/-- **No two members of an entry have the same key.** -/
theorem nodup_keys_fileMembers (file : FileComments) :
    (Members.keys (fileMembers file)).Nodup := by
  have leading : (Members.keys (leadingMembers file)).Nodup :=
    (keys_leadingMembers file).nodup (by decide)
  have numbers : ((List.range file.commentCount).map toString).Nodup :=
    List.nodup_range.map toString_injective
  have apart : ∀ key ∈ (List.range file.commentCount).map toString,
      ∀ name, isNumeral name = false → key ≠ name := by
    rintro key member name named rfl
    obtain ⟨number, -, rfl⟩ := List.mem_map.mp member
    rw [isNumeral_toString] at named
    cases named
  rw [keys_fileMembers]
  refine List.nodup_append.mpr
    ⟨List.nodup_append.mpr ⟨leading, numbers, ?_⟩, List.nodup_singleton _, ?_⟩
  · intro name inFront key member
    exact (apart key member name (isNumeral_leading inFront)).symm
  · intro key member name last
    obtain rfl := List.mem_singleton.mp last
    rcases List.mem_append.mp member with inFront | numbered
    · rintro rfl
      exact absurd ((keys_leadingMembers file).subset inFront) (by decide)
    · exact apart key numbered _ (by decide)

theorem get?_optional {α : Type} (name : String) (shown : α → Json) (value : Option α)
    (key : String) :
    Members.get? (value.toList.map fun value => (name, shown value)) key =
      if key = name then value.map shown else none := by
  cases value with
  | none => exact (ite_self none).symm
  | some value => exact Members.get?_cons name (shown value) [] key

/-- What an entry tells under a name. -/
theorem get?_named {file : FileComments} {name : String} (named : isNumeral name = false) :
    Members.get? (fileMembers file) name =
      if name = "ObjectId" then file.objectId.map Json.str
      else if name = "LastModified" then file.lastModified.map fun time => Json.str time.iso
      else if name = "FileType" then some (.str file.fileType.name)
      else if name = "Binary" then (if file.isBinary then some (.bool true) else none)
      else if name = "CommentCount" then some (.nat file.commentCount)
      else none := by
  have numbers : Members.get? (numberedComments 0 file.comments) name = none := by
    rw [Members.get?_eq_none_iff, keys_numberedComments, List.mem_map]
    rintro ⟨number, -, rfl⟩
    rw [isNumeral_toString] at named
    cases named
  have binary : Members.get? (if file.isBinary then [("Binary", Json.bool true)] else []) name =
      if name = "Binary" then (if file.isBinary then some (.bool true) else none) else none := by
    cases file.isBinary with
    | false => exact (ite_self none).symm
    | true => exact Members.get?_cons "Binary" (.bool true) [] name
  rw [fileMembers, leadingMembers, Members.get?_append, Members.get?_append, Members.get?_append,
    Members.get?_append, numbers, get?_optional, get?_optional, Members.get?_cons, binary,
    Members.get?_cons, Members.get?_nil, Option.or_none]
  split_ifs <;> simp_all

theorem get?_commentCount (file : FileComments) :
    (fileEntry file).get? "CommentCount" = some (.nat file.commentCount) :=
  get?_named (by decide)

theorem readComments?_numberedComments {members : Members}
    (distinct : (Members.keys members).Nodup) {number : Nat} {comments : List Comment}
    (inside : ∀ member ∈ numberedComments number comments, member ∈ members) :
    readComments? (.obj members) comments.length number = some comments := by
  induction comments generalizing number with
  | nil => rfl
  | cons comment rest ih =>
      rw [numberedComments, List.forall_mem_cons] at inside
      have here : (Json.obj members).get? (toString number) = some (commentEntry comment) :=
        lookup_of_mem distinct inside.1
      rw [List.length_cons, readComments?, here, ih inside.2]
      rfl

/-- **The entry of a file can be read back.** -/
theorem read?_fileEntry (file : FileComments) :
    FileView.read? (fileEntry file) = some (FileView.ofFile file) := by
  have comments : readComments? (fileEntry file) file.commentCount 0 = some file.comments :=
    readComments?_numberedComments (nodup_keys_fileMembers file) fun member inside => by
      simp [fileMembers, inside]
  have fileType : (FileType.ofJson (.str file.fileType.name)).toOption = some file.fileType := by
    cases file.fileType <;> rfl
  have isBinary : mark? ((fileEntry file).get? "Binary") = some file.isBinary := by
    rw [fileEntry_eq, Json.get?, get?_named (by decide)]
    cases file.isBinary <;> rfl
  have objectId : optionalText? ((fileEntry file).get? "ObjectId") = some file.objectId := by
    rw [fileEntry_eq, Json.get?, get?_named (by decide)]
    cases file.objectId <;> rfl
  have lastModified : optionalText? ((fileEntry file).get? "LastModified") =
      some (file.lastModified.map Timestamp.iso) := by
    rw [fileEntry_eq, Json.get?, get?_named (by decide)]
    cases file.lastModified <;> rfl
  have typeTold : (fileEntry file).get? "FileType" = some (.str file.fileType.name) :=
    get?_named (by decide)
  have count : (Json.nat file.commentCount).number? = some file.commentCount := rfl
  unfold FileView.read?
  simp only [typeTold, get?_commentCount, count, Option.bind_eq_bind, Option.bind_some, fileType,
    isBinary, objectId, lastModified, comments]
  rfl

/-! ### Putting in the entries -/

/-- The entry of a file, under the path by which it is shown. -/
def filePair (file : FileComments) : String × Json :=
  (file.path.display, fileEntry file)

theorem foldl_addFile (entries : Members) (files : List FileComments) :
    files.foldl addFile entries = Members.putAll entries (files.map filePair) := by
  rw [Members.putAll, List.foldl_map]
  rfl

theorem keys_filePairs (files : List FileComments) :
    Members.keys (files.map filePair) = files.map (·.path.display) :=
  List.map_map

/-- Every fault puts in the entry of a path that could not be read. -/
theorem foldl_addError (entries : Members) (errors : List (Path × Fault)) :
    ∃ pairs, errors.foldl addError entries = Members.putAll entries pairs ∧
      Members.keys pairs = errors.map (·.1.display) ∧
      ∀ pair ∈ pairs, ∃ message, pair.2 = errorEntry message := by
  induction errors generalizing entries with
  | nil => exact ⟨[], rfl, rfl, fun _ member => by cases member⟩
  | cons error rest ih =>
      obtain ⟨pairs, put, keys, faults⟩ := ih (addError entries error)
      refine ⟨(error.1.display, errorEntry _) :: pairs, put, ?_, ?_⟩
      · rw [Members.keys_cons, keys, List.map_cons]
      · rw [List.forall_mem_cons]
        exact ⟨⟨_, rfl⟩, faults⟩

/-- The faults that are already told under a key. -/
def told (entries : Members) (key : String) : List String :=
  ((Members.get? entries key).bind errorText?).toList

/-- The messages of the faults whose path is shown as `key`, in their order. -/
def messagesAt (errors : List (Path × Fault)) (key : String) : List String :=
  (errors.filter (·.1.display = key)).map (·.2.message)

theorem get?_addError (entries : Members) (error : Path × Fault) (key : String) :
    Members.get? (addError entries error) key =
      if key = error.1.display then
        some (errorEntry ("; ".intercalate (told entries key ++ [error.2.message])))
      else Members.get? entries key := by
  rw [addError, Members.get?_insert]
  by_cases here : key = error.1.display
  · rw [if_pos here, if_pos here, told, here]
    cases (Members.get? entries error.1.display).bind errorText? <;> rfl
  · rw [if_neg here, if_neg here]

/-- **Faults with the same path share an entry**, which tells them in their order. -/
theorem get?_foldl_addError (entries : Members) (errors : List (Path × Fault)) (key : String) :
    Members.get? (errors.foldl addError entries) key =
      if messagesAt errors key = [] then Members.get? entries key
      else some (errorEntry ("; ".intercalate (told entries key ++ messagesAt errors key))) := by
  induction errors generalizing entries with
  | nil => rfl
  | cons error rest ih =>
      have step : messagesAt (error :: rest) key =
          if error.1.display = key then error.2.message :: messagesAt rest key
          else messagesAt rest key := by
        unfold messagesAt
        by_cases here : error.1.display = key <;> simp [here]
      rw [List.foldl_cons, ih, told, get?_addError, step]
      by_cases here : error.1.display = key
      · -- The text that the entry has now is the first piece of the text that it gets later.
        rw [if_pos here.symm, if_pos here, if_neg (List.cons_ne_nil _ _)]
        generalize messagesAt rest key = later
        cases later with
        | nil => rfl
        | cons next others =>
            rw [if_neg (List.cons_ne_nil _ _), told]
            cases (Members.get? entries key).bind errorText? <;> rfl
      · rw [if_neg (Ne.symm here), if_neg here, told]

theorem messagesAt_ne_nil {errors : List (Path × Fault)} {error : Path × Fault}
    (member : error ∈ errors) : messagesAt errors error.1.display ≠ [] := by
  apply List.ne_nil_of_mem
  exact List.mem_map.mpr ⟨error, List.mem_filter.mpr ⟨member, decide_eq_true rfl⟩, rfl⟩

theorem messagesAt_eq_nil {errors : List (Path × Fault)} {key : String}
    (apart : ∀ error ∈ errors, error.1.display ≠ key) : messagesAt errors key = [] := by
  unfold messagesAt
  rw [List.map_eq_nil_iff, List.filter_eq_nil_iff]
  intro error member
  rw [decide_eq_true_eq]
  exact apart error member

/-! ### The document -/

theorem get?_document (result : RunResult) {name : String}
    (other : name ∉ ["Repository", "Revision", "ObjectId", "CommitTime"]) :
    (document result).get? name =
      Members.get? [("Files", .obj (entries result)), ("FileTypes", .obj (typeCounts result)),
        ("CommentCount", .nat result.commentCount), ("ElapsedTime", .nat result.elapsed)] name := by
  have revision : Members.get? (result.revision.toList.flatMap revisionMembers) name = none := by
    rw [Members.get?_eq_none_iff]
    cases result.revision with
    | none => exact List.not_mem_nil
    | some revision => exact other
  rw [document, Json.get?, Members.get?_append, revision, Option.none_or]

/-- Every file is shown under a path of its own. -/
structure ShownApart (files : List FileComments) (errors : List (Path × Fault)) : Prop where
  distinct : (files.map (·.path.display)).Nodup
  fromErrors : ∀ file ∈ files, ∀ error ∈ errors, error.1.display ≠ file.path.display

/-- **The document keeps all that is found**, as long as every file is shown under a path of its
own. -/
theorem document_lossless (result : RunResult) (apart : ShownApart result.files result.errors) :
    ∃ entries, (document result).get? "Files" = some (.obj entries) ∧
      Members.keys entries = result.files.map (·.path.display) ++
        (result.errors.map (·.1.display)).eraseDups ∧
      (∀ file ∈ result.files, ∃ members,
        Members.get? entries file.path.display = some (.obj members) ∧
        (Members.keys members).Nodup ∧
        (Members.keys members).filter isNumeral = (List.range file.commentCount).map toString ∧
        Members.get? members "CommentCount" = some (.nat file.commentCount) ∧
        FileView.read? (.obj members) = some (FileView.ofFile file)) ∧
      ∀ error ∈ result.errors, ∃ members,
        Members.get? entries error.1.display = some (.obj members) ∧
        Members.get? members "CommentCount" = some (.nat 0) ∧
        Members.get? members "Error" =
          some (.str ("; ".intercalate (messagesAt result.errors error.1.display))) := by
  have files : result.files.foldl addFile [] = result.files.map filePair := by
    rw [foldl_addFile]
    exact Members.putAll_fresh ((keys_filePairs result.files).symm ▸ apart.distinct)
  have unshown : ∀ error ∈ result.errors,
      error.1.display ∉ Members.keys (result.files.map filePair) := by
    intro error member shown
    rw [keys_filePairs] at shown
    obtain ⟨file, found, same⟩ := List.mem_map.mp shown
    exact apart.fromErrors file found error member same.symm
  refine ⟨entries result, get?_document result (by decide), ?_, ?_, ?_⟩
  · obtain ⟨pairs, put, keys, -⟩ := foldl_addError (result.files.map filePair) result.errors
    have fresh : (Members.keys pairs).filter (· ∉ Members.keys (result.files.map filePair)) =
        result.errors.map (·.1.display) := by
      rw [keys, List.filter_eq_self]
      intro key member
      obtain ⟨error, inside, rfl⟩ := List.mem_map.mp member
      exact decide_eq_true (unshown error inside)
    rw [entries, files, put, Members.keys_putAll, fresh, keys_filePairs]
  · intro file member
    refine ⟨fileMembers file, ?_, nodup_keys_fileMembers file, filter_isNumeral_fileMembers file,
      get?_commentCount file, read?_fileEntry file⟩
    rw [entries, files, get?_foldl_addError,
      if_pos (messagesAt_eq_nil (apart.fromErrors file member))]
    exact lookup_of_mem ((keys_filePairs result.files).symm ▸ apart.distinct)
      (List.mem_map_of_mem member)
  · intro error member
    refine ⟨[("Error", .str ("; ".intercalate (messagesAt result.errors error.1.display))),
      ("CommentCount", .nat 0)], ?_, rfl, rfl⟩
    rw [entries, files, get?_foldl_addError, if_neg (messagesAt_ne_nil member), told,
      Members.get?_eq_none_iff.mpr (unshown error member)]
    rfl

/-- A result with two files and three faults, two of which have the same path. -/
def troubledResult : RunResult where
  files :=
    [{ path := .ofString "a.rb", fileType := .ruby, size := 8, objectId := some "0f",
       lastModified := some ⟨0⟩,
       comments := [{ text := "# a\n", startLine := 1, endLine := 1, column := 0 },
         { text := "# b\n", startLine := 2, endLine := 2, column := 0 }] },
     { path := .ofString "0", fileType := .unsupported, size := 1, isBinary := true }]
  errors := [(.ofString "x", .io .notFound), (.ofString "1", .config "y"),
    (.ofString "x", .io .isDirectory)]

theorem document_lossless_troubled :
    ShownApart troubledResult.files troubledResult.errors ∧
      ∃ entries, (document troubledResult).get? "Files" = some (.obj entries) ∧
        Members.keys entries = ["a.rb", "0", "x", "1"] ∧
        (Members.get? entries "a.rb").bind FileView.read? = some
          { fileType := .ruby, isBinary := false, objectId := some "0f",
            lastModified := some "1970-01-01T00:00:00Z",
            comments := [{ text := "# a\n", startLine := 1, endLine := 1, column := 0 },
              { text := "# b\n", startLine := 2, endLine := 2, column := 0 }] } ∧
        (Members.get? entries "x").bind errorText? =
          some ("IO error: No such file or directory (os error 2); "
            ++ "IO error: Is a directory (os error 21)") := by
  have apart : ShownApart troubledResult.files troubledResult.errors :=
    ⟨by decide +kernel, by decide +kernel⟩
  refine ⟨apart, ?_⟩
  obtain ⟨entries, found, keys, files, errors⟩ := document_lossless troubledResult apart
  refine ⟨entries, found, keys.trans (by decide +kernel), ?_, ?_⟩
  · have shown : (Path.ofString "a.rb").display = "a.rb" := by decide +kernel
    obtain ⟨members, entry, -, -, -, view⟩ := files _ List.mem_cons_self
    rw [← shown]
    refine (congrArg (·.bind FileView.read?) entry).trans (view.trans ?_)
    decide +kernel
  · have shown : (Path.ofString "x").display = "x" := by decide +kernel
    obtain ⟨members, entry, -, told⟩ := errors _ List.mem_cons_self
    have text : errorText? (.obj members) = some ("; ".intercalate
        (messagesAt troubledResult.errors (Path.ofString "x").display)) := by
      rw [errorText?, Json.get?, told]
    rw [← shown]
    refine (congrArg (·.bind errorText?) entry).trans (text.trans ?_)
    decide +kernel

end Report

end Marginalia
