/-
**Runs of line comments.**

Comments on consecutive lines that start in the same column are one comment.  A `LineRun` holds the
comment that may still grow; a fragment that does not fit ends it and starts the next.
-/

import Marginalia.Comment.Basic

namespace Marginalia

/-- The line comment that is still growing, if there is one. -/
structure LineRun where
  pending : Option Comment := none
deriving Repr, DecidableEq, Inhabited

namespace LineRun

/-- Whether a comment is still growing. -/
def isPending (run : LineRun) : Bool :=
  run.pending.isSome

/-- Whether a fragment at this place continues the growing comment: it stands on the next line, in
the same column.  The next line has a number: lines are counted by machine words, and none has the
greatest word as its number. -/
def accepts (run : LineRun) (line column : Nat) : Bool :=
  run.pending.any fun comment => comment.endLine + 1 == line && comment.column == column

/-- Takes in a fragment.  If it does not continue the growing comment, that comment is handed out
and a new one starts. -/
def push (run : LineRun) (text : String) (line column : Nat) : LineRun × Option Comment :=
  if run.accepts line column then
    (⟨run.pending.map (·.extend text line)⟩, none)
  else
    (⟨some (Comment.ofFragment text line column)⟩, run.pending)

/-- Hands out the growing comment. -/
def flush (run : LineRun) : LineRun × Option Comment :=
  (⟨none⟩, run.pending)

end LineRun

end Marginalia
