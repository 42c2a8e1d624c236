/-
**The comments of one file.**

* `FileComments.ofBytes` takes the comments out of the contents of a file.  A binary file has none,
  and neither has a file that is not Ruby.
* `FileComments.log` is what is told about it.
-/

import Marginalia.FileKind
import Marginalia.Log
import Marginalia.Path
import Marginalia.Ruby.Lexer
import Marginalia.Source.Encoding
import Marginalia.Timestamp

namespace Marginalia.Scan

open Marginalia.Text

/-- The type of the file of a path; only its last name counts. -/
def fileTypeOf (matcher : FileMatcher) (path : Path) : FileType :=
  match path.fileNameText? with
  | some name => matcher.fileType name
  | none => .unsupported

/-- A file with its comments. -/
structure FileComments where
  path : Path
  fileType : FileType
  isBinary : Bool := false
  /-- The length of the file in bytes. -/
  size : Nat
  comments : List Comment := []
  /-- The name of the contents in a repository. -/
  objectId : Option String := none
  /-- When the file of a revision last changed. -/
  lastModified : Option Timestamp := none
deriving Repr, DecidableEq, Inhabited

namespace FileComments

/-- The comments in the contents of a file. -/
def ofBytes (path : Path) (fileType : FileType) (size : Nat) (bytes : Bytes) : FileComments :=
  if Source.looksBinary bytes then { path, fileType, size, isBinary := true }
  else if fileType.isSupported then
    { path, fileType, size, comments := Ruby.extractComments (Source.decode bytes) }
  else { path, fileType, size }

/-- The number of comments. -/
def commentCount (file : FileComments) : Nat :=
  file.comments.length

/-- What is told about a file that has been read. -/
def log (file : FileComments) : List LogLine :=
  let line (level : LogLevel) (text : String) : LogLine :=
    { level, source := "comment_lister_engine::processor", text }
  if file.isBinary then [line .warn ("skipping binary file " ++ file.path.display)]
  else if file.fileType.isSupported then
    [line .debug (file.path.display ++ ": " ++ toString file.commentCount ++ " comment(s)")]
  else []

end FileComments

end Marginalia.Scan
