/-
**Lexers that read a source line by line.**

A `LineLexer` is a start state and a step: from the state before a line, the line with its line
break and its number, to the state after it and the event that the line yields, if any.

* `LineLexer.run` reads a list of lines and collects the events.
* `LineLexer.events` reads a whole source, its lines numbered from one.
-/

import Marginalia.Comment.Event
import Marginalia.Text.Line

namespace Marginalia

/-- A source of events that reads one line at a time and carries a state between lines. -/
structure LineLexer (State : Type) where
  /-- The state before the first line. -/
  initial : State
  /-- Reads one line. -/
  step : State → List Char → Nat → State × Option Event
  /-- Whether the next line starts inside something that an earlier line opened. -/
  inMultiline : State → Bool := fun _ => false

namespace LineLexer

variable {State : Type}

/-- Reads consecutive lines, the first of which has the given number. -/
def run (lexer : LineLexer State) (state : State) (number : Nat) :
    List (List Char) → State × List Event
  | [] => (state, [])
  | line :: rest =>
    let (next, event) := lexer.step state line number
    let (last, events) := lexer.run next (number + 1) rest
    (last, event.toList ++ events)

/-- The events of a source. -/
def events (lexer : LineLexer State) (source : String) : List Event :=
  (lexer.run lexer.initial 1 (Text.lines source.toList)).2

end LineLexer

end Marginalia
