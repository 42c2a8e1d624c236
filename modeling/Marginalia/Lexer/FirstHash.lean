/-
**The simplest lexer: a comment starts at the first `#` of a line.**

It knows no strings and no embedded documents and carries nothing from line to line.
-/

import Marginalia.Lexer.LineLexer

namespace Marginalia.FirstHash

/-- The line from its first `#` on, with the byte column of that `#`. -/
def comment? (line : List Char) : Option (Nat × List Char) :=
  match line.dropWhile (· ≠ '#') with
  | [] => none
  | rest => some (Text.byteLength (line.takeWhile (· ≠ '#')), rest)

/-- The lexer that takes the first `#` of a line for the start of a comment. -/
def lexer : LineLexer Unit where
  initial := ()
  step _ line number :=
    ((), (comment? line).map fun (column, text) =>
      .lineComment (String.ofList text) number column)

end Marginalia.FirstHash
