/-
**Delimiters of literals.**

A literal ends at its closing character.  If it opens with a bracket, the same bracket inside it
opens a nested pair; if it interpolates, `#{` inside it starts code.
-/

namespace Marginalia.Ruby

/-- How a literal ends, nests and interpolates. -/
structure Delimiter where
  /-- The bracket that nests inside the literal; `none` if both ends are the same character. -/
  opening : Option Char
  /-- The character that ends the literal. -/
  closing : Char
  /-- Whether `#{` starts code inside the literal. -/
  interpolates : Bool
deriving Repr, DecidableEq, Inhabited

/-- A pair of quotes; only single quotes do not interpolate. -/
def Delimiter.quote (mark : Char) : Delimiter :=
  { opening := none, closing := mark, interpolates := mark != '\'' }

/-- The delimiter that starts with this character: a bracket ends at its partner, any other
character at itself. -/
def Delimiter.bracket (mark : Char) (interpolates : Bool) : Delimiter :=
  match mark with
  | '(' => { opening := some '(', closing := ')', interpolates }
  | '[' => { opening := some '[', closing := ']', interpolates }
  | '{' => { opening := some '{', closing := '}', interpolates }
  | '<' => { opening := some '<', closing := '>', interpolates }
  | other => { opening := none, closing := other, interpolates }

end Marginalia.Ruby
