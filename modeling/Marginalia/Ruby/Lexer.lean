/-
**The Ruby lexer.**

Between lines the lexer remembers whether it is in an embedded document, whether it has come to the
data behind `__END__`, which here documents are pending and which scopes are open.

* `Lexer.readLine` reads one line and yields at most one event.
* `Lexer.reset` forgets everything.
* `lexer` is the lexer as a `LineLexer`.
* `extractComments` lists the comments of a source.
-/

import Marginalia.Comment.Aggregator
import Marginalia.Lexer.LineLexer
import Marginalia.Ruby.Scanner

namespace Marginalia.Ruby

open Marginalia.Text

/-- What the lexer remembers between lines. -/
structure Lexer where
  /-- Whether an embedded document is open. -/
  inDoc : Bool := false
  /-- Whether the data behind the program has been reached. -/
  inData : Bool := false
  heredocs : HeredocQueue := []
  scopes : ScopeStack := []
deriving Repr, DecidableEq, Inhabited

/-- Whether a line is a document marker: the marker stands at its very start, and white space or
nothing follows. -/
def isDocMarker (marker : String) (line : List Char) : Bool :=
  marker.toList.isPrefixOf line && (line.drop marker.length).head?.all isSpace

/-- Whether a line opens an embedded document. -/
def opensDoc (line : List Char) : Bool :=
  isDocMarker "=begin" line

/-- Whether a line closes an embedded document. -/
def closesDoc (line : List Char) : Bool :=
  isDocMarker "=end" line

/-- Whether a line starts the data section. -/
def startsData (line : List Char) : Bool :=
  dropLineBreaks line == "__END__".toList

namespace Lexer

/-- Whether the next line starts inside a document, a here document or a literal. -/
def inMultiline (state : Lexer) : Bool :=
  state.inDoc || state.heredocs.isActive || !state.scopes.isEmpty

/-- Forgets everything. -/
def reset (state : Lexer) : Lexer :=
  { state with inDoc := false, inData := false, heredocs := [], scopes := [] }

/-- Scans a line of code. -/
def scanLine (state : Lexer) (line : List Char) (number : Nat) : Lexer × Option Event :=
  let scanned := scan state.scopes state.heredocs [] 0 line
  ({ state with heredocs := scanned.heredocs, scopes := scanned.scopes },
    scanned.comment.map fun (column, text) => .lineComment (String.ofList text) number column)

/-- Reads one line outside documents, here documents and data.  Document markers and the start of
the data count only while no literal is open. -/
def readCode (state : Lexer) (line : List Char) (number : Nat) : Lexer × Option Event :=
  if state.scopes.isEmpty && opensDoc line then
    ({ state with inDoc := true }, some (.docBegin (String.ofList line) number 0))
  else if state.scopes.isEmpty && startsData line then
    ({ state with inData := true }, none)
  else state.scanLine line number

/-- Reads one line of an embedded document. -/
def readDoc (state : Lexer) (line : List Char) (number : Nat) : Lexer × Option Event :=
  if closesDoc line then
    ({ state with inDoc := false }, some (.docEnd (String.ofList line) number))
  else (state, some (.docBody (String.ofList line) number))

/-- Reads one line. -/
def readLine (state : Lexer) (line : List Char) (number : Nat) : Lexer × Option Event :=
  if state.inData then (state, none)
  else if state.heredocs.isActive then
    ({ state with heredocs := (state.heredocs.readLine line).1 }, none)
  else if state.inDoc then state.readDoc line number
  else state.readCode line number

end Lexer

/-- The Ruby lexer as a source of events. -/
def lexer : LineLexer Lexer where
  initial := {}
  step := Lexer.readLine
  inMultiline := Lexer.inMultiline

/-- The events of a Ruby source. -/
def lexSource (source : String) : List Event :=
  lexer.events source

/-- The comments of a Ruby source. -/
def extractComments (source : String) : List Comment :=
  aggregate (lexSource source)

end Marginalia.Ruby
