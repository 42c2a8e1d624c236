/-
**Here documents.**

An opener such as `<<~EOS` announces that the lines after the current one are text, up to a line
that holds the identifier.  Several openers on one line are served in order, so the pending ones
form a queue: `HeredocQueue.push` adds at the back, `HeredocQueue.readLine` compares a line with the
front.
-/

import Marginalia.Text.CharClass
import Marginalia.Text.Space

namespace Marginalia.Ruby

/-- A here document that has been announced and not yet ended. -/
structure Heredoc where
  /-- The text of the line that ends the document. -/
  identifier : String
  /-- Whether white space may stand around the identifier on that line. -/
  allowIndent : Bool
deriving Repr, DecidableEq, Inhabited

namespace Heredoc

open Marginalia.Text

/-- Whether a line ends the document.  Line breaks at its end do not count. -/
def endsAt (heredoc : Heredoc) (line : List Char) : Bool :=
  let body := dropLineBreaks line
  (if heredoc.allowIndent then trim body else body) == heredoc.identifier.toList

/-- A quotation mark that may enclose the identifier of an opener. -/
def isQuote (c : Char) : Bool :=
  c == '"' || c == '\'' || c == '\x60'

/-- The identifier at the start of a text, with the number of characters it takes up: a bare name,
or any text within quotes on one line. -/
def identifier? : List Char → Option (List Char × Nat)
  | [] => none
  | c :: rest =>
    if isQuote c then
      let name := rest.takeWhile fun d => d != c && d != '\n'
      match name, rest.drop name.length with
      | _ :: _, d :: _ => if d = c then some (name, name.length + 2) else none
      | _, _ => none
    else if c.isAlpha || c == '_' then
      let name := c :: rest.takeWhile isWordChar
      some (name, name.length)
    else none

/-- What follows the sign that allows indentation, and whether that sign is there. -/
def splitSign : List Char → Bool × List Char
  | '-' :: rest => (true, rest)
  | '~' :: rest => (true, rest)
  | rest => (false, rest)

/-- The opener at the start of a text, with the number of characters it takes up. -/
def opener? : List Char → Option (Heredoc × Nat)
  | '<' :: '<' :: rest =>
    let (allowIndent, body) := splitSign rest
    (identifier? body).map fun (name, width) =>
      ({ identifier := String.ofList name, allowIndent }, 2 + allowIndent.toNat + width)
  | _ => none

/-- Whether a text starts like an opener whose identifier is quoted. -/
def isQuotedOpener : List Char → Bool
  | '<' :: '<' :: rest => (splitSign rest).2.head?.any isQuote
  | _ => false

end Heredoc

/-- The announced here documents, the one whose text comes first at the front. -/
abbrev HeredocQueue := List Heredoc

namespace HeredocQueue

/-- Announces one more here document. -/
def push (queue : HeredocQueue) (heredoc : Heredoc) : HeredocQueue :=
  queue ++ [heredoc]

/-- Whether a here document is pending. -/
def isActive (queue : HeredocQueue) : Bool :=
  !queue.isEmpty

/-- Reads one line of text and tells whether it ends the document at the front, which then leaves
the queue. -/
def readLine (queue : HeredocQueue) (line : List Char) : HeredocQueue × Bool :=
  match queue with
  | [] => ([], false)
  | heredoc :: rest => if heredoc.endsAt line then (rest, true) else (queue, false)

end HeredocQueue

end Marginalia.Ruby
