/-
**Names of references.**

A reference has a full name such as `refs/heads/main`, of which a part is enough to find it.

* `isRefName` tells which texts are full names.
* `candidates` are the full names that a name may stand for.
* `isOwnName` tells which references every work tree has for itself.
-/

namespace Marginalia.Git

/-- A character that may not stand in the name of a reference. -/
def isForbidden (c : Char) : Bool :=
  c.toNat ≤ 0x20 || ['~', '^', ':', '\\', '?', '[', '*'].contains c

/-- Whether a text holds two given characters next to each other. -/
def holdsPair (first second : Char) : List Char → Bool
  | [] => false
  | [_] => false
  | c :: next :: rest => (c == first && next == second) || holdsPair first second (next :: rest)

/-- Whether a text may stand between two slashes of a name. -/
def isRefSegment (segment : List Char) : Bool :=
  !segment.isEmpty && segment.head? != some '.' && !segment.any isForbidden
    && !holdsPair '.' '.' segment && !holdsPair '@' '{' segment
    && !".lock".toList.isSuffixOf segment

/-- Whether a text has only capital letters, and underscores between them. -/
def isAllCapitals (text : List Char) : Bool :=
  text.all (fun c => c.isUpper || c == '_') && text.head? != some '_' && text.getLast? != some '_'

/-- Whether a text is the full name of a reference.  A name without a slash is all in capital
letters, and in any other name the first part is not. -/
def isRefName (name : String) : Bool :=
  let segments := (name.splitOn "/").map String.toList
  segments.all isRefSegment && !name.endsWith "."
    && match segments with
      | [single] => isAllCapitals single
      | first :: _ => !isAllCapitals first
      | [] => false

/-- The most bytes of the full name of a reference. -/
def longestRefName : Nat := 1023

/-- Whether every work tree has a reference of that name for itself. -/
def isOwnName (name : String) : Bool :=
  !name.startsWith "refs/" || name.startsWith "refs/bisect/" || name.startsWith "refs/worktree/"
    || name.startsWith "refs/rewritten/"

/-- The full names that a name may stand for, in the order in which they are tried. -/
def candidates (name : String) : List String :=
  [name, "refs/" ++ name, "refs/tags/" ++ name, "refs/heads/" ++ name, "refs/remotes/" ++ name,
    "refs/remotes/" ++ name ++ "/HEAD"]

end Marginalia.Git
