/-
**Comment fragments, one per source line.**

A lexer hands over at most one event per line: a `#` comment, or one line of an embedded document
that `=begin` opens and `=end` closes.  Lines count from one, columns are byte offsets.
-/

namespace Marginalia

/-- What one source line contributes to the comments of its file. -/
inductive Event where
  /-- A comment that runs from `column` to the end of the line. -/
  | lineComment (text : String) (line column : Nat)
  /-- The line that opens an embedded document. -/
  | docBegin (text : String) (line column : Nat)
  /-- A line inside an embedded document. -/
  | docBody (text : String) (line : Nat)
  /-- The line that closes an embedded document. -/
  | docEnd (text : String) (line : Nat)
deriving Repr, DecidableEq, Inhabited

namespace Event

/-- The line that the event stands on. -/
def line : Event → Nat
  | lineComment _ line _ | docBegin _ line _ | docBody _ line | docEnd _ line => line

/-- The text that the event carries, its line break included. -/
def text : Event → String
  | lineComment text _ _ | docBegin text _ _ | docBody text _ | docEnd text _ => text

/-- Whether the event belongs to an embedded document. -/
def isDoc : Event → Bool
  | lineComment .. => false
  | docBegin .. | docBody .. | docEnd .. => true

end Event

end Marginalia
