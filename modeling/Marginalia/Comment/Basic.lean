/-
**Comments.**

A comment is a run of fragments with its place in the source.  It grows at its end only
(`Comment.extend`), and its last line never lies before its first one once it has grown.
-/

namespace Marginalia

/-- A comment as it is reported: the text of all its fragments, the first and the last line, and
the byte column at which its first line starts. -/
structure Comment where
  text : String
  startLine : Nat
  endLine : Nat
  column : Nat
deriving Repr, DecidableEq, Inhabited

namespace Comment

/-- A comment of a single fragment. -/
def ofFragment (text : String) (line column : Nat) : Comment :=
  { text, startLine := line, endLine := line, column }

/-- The comment with one more fragment.  A fragment from an earlier line leaves the last line at
the first one. -/
def extend (comment : Comment) (text : String) (line : Nat) : Comment :=
  { comment with text := comment.text ++ text, endLine := max line comment.startLine }

/-- The number of lines from the first to the last; at least one. -/
def lineSpan (comment : Comment) : Nat :=
  comment.endLine - comment.startLine + 1

theorem startLine_le_endLine_extend (comment : Comment) (text : String) (line : Nat) :
    (comment.extend text line).startLine ≤ (comment.extend text line).endLine :=
  Nat.le_max_right line comment.startLine

end Comment

end Marginalia
