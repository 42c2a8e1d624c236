/-
**From events to comments.**

An `Aggregator` folds the events of one file into its comments.  It holds at most one unfinished
comment: either a run of line comments or an open embedded document.  Any order of events is
accepted, and no text is dropped but that of a closing line outside a document.

* `Aggregator.push` takes in one event and hands out at most one finished comment.
* `Aggregator.finish` hands out what is left.
* `aggregate` does both for a whole list of events.
-/

import Marginalia.Comment.Event
import Marginalia.Comment.LineRun
import Marginalia.Comment.DocBlock

namespace Marginalia

/-- The unfinished comment of one file. -/
structure Aggregator where
  lines : LineRun := {}
  block : DocBlock := .idle
deriving Repr, DecidableEq, Inhabited

/-- The column of a document line that arrives outside any document: such lines start at the left
margin. -/
def strayBodyColumn : Nat := 0

namespace Aggregator

/-- Adds a fragment to the open document, or to the run of line comments if none is open. -/
def pushFragment (state : Aggregator) (text : String) (line column : Nat) :
    Aggregator × Option Comment :=
  match state.block.append? text line with
  | some block => ({ state with block }, none)
  | none =>
    let (lines, finished) := state.lines.push text line column
    ({ state with lines }, finished)

/-- Takes in one event. -/
def push (state : Aggregator) : Event → Aggregator × Option Comment
  | .lineComment text line column => state.pushFragment text line column
  | .docBody text line => state.pushFragment text line strayBodyColumn
  | .docBegin text line column =>
    let (lines, finished) := state.lines.flush
    ({ lines, block := state.block.start text line column }, finished)
  | .docEnd text line =>
    match state.block.close text line with
    | (block, some finished) => ({ state with block }, some finished)
    | (block, none) =>
      let (lines, finished) := state.lines.flush
      ({ lines, block }, finished)

/-- Hands out the unfinished comment at the end of the events. -/
def finish (state : Aggregator) : Aggregator × Option Comment :=
  match state.lines.flush with
  | (lines, some finished) => ({ state with lines }, some finished)
  | (lines, none) =>
    let (block, finished) := state.block.take
    ({ lines, block }, finished)

/-- Line comments and a document are never unfinished at the same time. -/
def isConsistent (state : Aggregator) : Bool :=
  !(state.lines.isPending && state.block.isOpen)

/-- Whether a comment is unfinished. -/
def hasPending (state : Aggregator) : Bool :=
  state.lines.isPending || state.block.isOpen

/-- Whether a document is open. -/
def inDoc (state : Aggregator) : Bool :=
  state.block.isOpen

/-- Takes in a list of events and collects the comments that they finish. -/
def pushAll (state : Aggregator) : List Event → Aggregator × List Comment
  | [] => (state, [])
  | event :: rest =>
    let (next, finished) := state.push event
    let (last, comments) := next.pushAll rest
    (last, finished.toList ++ comments)

end Aggregator

/-- The comments of a list of events. -/
def aggregate (events : List Event) : List Comment :=
  let (state, comments) := ({} : Aggregator).pushAll events
  comments ++ state.finish.2.toList

end Marginalia
