/-
**What can go wrong in a repository.**

The text of most faults names the kind of thing that they are about and, if there is a kind of its own
for it, the kind of failure, both with their numbers.
-/

import Marginalia.Disk.Fault
import Marginalia.Path

namespace Marginalia.Git

/-- Why a repository or a revision cannot be read. -/
inductive Fault where
  /-- The directory of the repository cannot be reached. -/
  | unreachable (directory : Path) (cause : Disk.Fault)
  /-- The directory holds no repository. -/
  | noRepository (directory : Path)
  /-- A file in the place of a repository does not say where the repository is. -/
  | malformedLink (file : Path)
  /-- A path or a revision holds a zero byte. -/
  | zeroByte
  /-- No reference has that name. -/
  | unknownRevision (name : String)
  /-- The name could be the start of an object's id, but is too short for one. -/
  | shortId
  /-- The name is the start of the ids of several objects. -/
  | ambiguousId
  /-- The full name of a reference is too long. -/
  | longName (name : String)
  /-- The file of a reference holds neither an id nor the name of a reference; it is named if it could
  have been an id. -/
  | corruptReference (name : Option String)
  /-- More references than the limit are named one by the other. -/
  | deepReference (limit : Nat)
  /-- The text is no revision. -/
  | invalidRevision (text : String)
  /-- The text is a revision of a kind that is not supported. -/
  | unsupportedRevision
  /-- A commit has not that many parents; they are counted from zero. -/
  | missingParent (number : Nat)
  /-- A directory has no entry of that name. -/
  | missingEntry (name : String)
  /-- A path in a revision has an empty name. -/
  | invalidTreePath
  /-- The entry of that name is no directory. -/
  | notTree (name : String)
  /-- The revision is not a commit. -/
  | notCommit (id : String)
  /-- A tag does not lead to contents of a file. -/
  | notBlob (id : String)
  /-- An object is not in the store. -/
  | missingObject (id : String)
deriving Repr, DecidableEq, Inhabited

/-- The wording of the fault. -/
def Fault.message : Fault → String
  | unreachable directory cause =>
    let code := match cause with
      | .notFound | .notDirectory => "; code=NotFound (-3)"
      | _ => ""
    "failed to resolve path '" ++ directory.display ++ "': " ++ cause.reason ++ "; class=Os (2)"
      ++ code
  | noRepository directory =>
    "could not find repository at '" ++ directory.display
      ++ "'; class=Repository (6); code=NotFound (-3)"
  | malformedLink file =>
    "the \x60.git\x60 file at '" ++ file.display ++ "' is malformed; class=Repository (6)"
  | zeroByte => "data contained a nul byte that could not be represented as a string"
  | unknownRevision name =>
    "revspec '" ++ name ++ "' not found; class=Reference (4); code=NotFound (-3)"
  | shortId =>
    "ambiguous lookup - OID prefix is too short; class=Object (11); code=Ambiguous (-5)"
  | ambiguousId =>
    "ambiguous lookup - multiple matches for prefix; class=Odb (9); code=Ambiguous (-5)"
  | longName name =>
    "the provided buffer is too short to hold the normalization of '" ++ name
      ++ "'; class=Reference (4); code=BufSize (-6)"
  | corruptReference name =>
    let named := match name with
      | some name => ": " ++ name
      | none => ""
    "corrupted loose reference file" ++ named ++ "; class=Reference (4)"
  | deepReference limit =>
    "cannot resolve reference (>" ++ toString limit ++ " levels deep); class=Reference (4)"
  | invalidRevision text =>
    "failed to parse revision specifier - Invalid pattern '" ++ text
      ++ "'; class=Invalid (3); code=InvalidSpec (-12)"
  | unsupportedRevision => "unimplemented; class=Invalid (3)"
  | missingParent number =>
    "parent " ++ toString number ++ " does not exist; class=Invalid (3); code=NotFound (-3)"
  | missingEntry name =>
    "the path '" ++ name ++ "' does not exist in the given tree; class=Tree (14); code=NotFound (-3)"
  | invalidTreePath => "invalid tree path given; class=Tree (14); code=NotFound (-3)"
  | notTree name =>
    "the path '" ++ name ++ "' exists but is not a tree; class=Tree (14); code=NotFound (-3)"
  | notCommit id =>
    "the git_object of id '" ++ id
      ++ "' can not be successfully peeled into a commit (git_object_t=1).; class=Object (11); "
      ++ "code=InvalidSpec (-12)"
  | notBlob id =>
    "the git_object of id '" ++ id
      ++ "' can not be successfully peeled into a blob (git_object_t=3).; class=Object (11); "
      ++ "code=Peel (-19)"
  | missingObject id =>
    "object not found - no match for id (" ++ id ++ "); class=Odb (9); code=NotFound (-3)"

end Marginalia.Git
