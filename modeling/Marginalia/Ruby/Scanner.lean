/-
**Scanning one line for the start of a comment.**

The scanner walks over the characters of a line and keeps a stack of scopes: the literals that are
open and, inside those that interpolate, the code within `#{` and `}`.  A `#` is a comment only in
code.  Scopes that are open at the end of the line go on in the next one.

* `literalStep` and `codeStep` say what one character does.
* `scan` runs them over a line.
-/

import Marginalia.Ruby.Heredoc
import Marginalia.Ruby.Literal
import Marginalia.Text.Line

namespace Marginalia.Ruby

open Marginalia.Text

/-- Something that is open where the scanner stands. -/
inductive Scope where
  /-- Code inside a literal, with the number of braces open in it. -/
  | interpolation (depth : Nat)
  /-- A literal, with the number of its own brackets nested in it. -/
  | literal (delimiter : Delimiter) (depth : Nat)
deriving Repr, DecidableEq, Inhabited

/-- The open scopes, the innermost first. -/
abbrev ScopeStack := List Scope

/-- What one character does. -/
inductive Step where
  /-- A comment starts at the character. -/
  | comment
  /-- The scanner goes on with these scopes, perhaps announces a here document, and passes over
  `skip` characters. -/
  | go (scopes : ScopeStack) (heredoc : Option Heredoc) (skip : Nat)
deriving Repr, DecidableEq

/-- The step that only changes the scopes. -/
def Step.enter (scopes : ScopeStack) (skip : Nat) : Step :=
  .go scopes none skip

/-- What a character does inside a literal; `rest` follows it and `outer` are the scopes around the
literal. -/
def literalStep (delimiter : Delimiter) (depth : Nat) (outer : ScopeStack) (c : Char)
    (rest : List Char) : Step :=
  let here := Scope.literal delimiter depth :: outer
  if c = '\\' then .enter here 1
  else if delimiter.opening = some c then .enter (.literal delimiter (depth + 1) :: outer) 0
  else if c = delimiter.closing then
    match depth with
    | 0 => .enter outer 0
    | depth + 1 => .enter (.literal delimiter depth :: outer) 0
  else if delimiter.interpolates && c == '#' && rest.head? == some '{' then
    .enter (.interpolation 0 :: here) 1
  else .enter here 0

/-- What an opening brace does in code. -/
def openBrace : ScopeStack → ScopeStack
  | .interpolation depth :: outer => .interpolation (depth + 1) :: outer
  | scopes => scopes

/-- What a closing brace does in code: it may end an interpolation. -/
def closeBrace : ScopeStack → ScopeStack
  | .interpolation 0 :: outer => outer
  | .interpolation (depth + 1) :: outer => .interpolation depth :: outer
  | scopes => scopes

/-- The here document that a less-than sign between `before` and `rest` announces, with the number
of characters to skip behind the sign. -/
def heredocAt? (before rest : List Char) : Option (Heredoc × Nat) :=
  if rest.head? == some '<' && startsOperand before rest.head?
      && !(Heredoc.isQuotedOpener ('<' :: rest) && followsValue before) then
    (Heredoc.opener? ('<' :: rest)).map fun (heredoc, width) => (heredoc, width - 1)
  else none

/-- Whether a slash between `before` and `rest` starts a regular expression: an operand can start
there and it is not the sign that divides and assigns. -/
def startsRegex (before rest : List Char) : Bool :=
  !(rest.head? == some '=' && followsValue before) && startsOperand before rest.head?

/-- What a character does in code; `before` precedes it, nearest first, and `rest` follows it. -/
def codeStep (scopes : ScopeStack) (before : List Char) (c : Char) (rest : List Char) : Step :=
  match c with
  | '#' => .comment
  | '\\' => .enter scopes 1
  | '"' | '\'' | '\x60' => .enter (.literal (.quote c) 0 :: scopes) 0
  | '{' => .enter (openBrace scopes) 0
  | '}' => .enter (closeBrace scopes) 0
  | '$' => .enter scopes (rest.head?.any (!isIdentChar ·)).toNat
  | '?' =>
    if isCharLiteral before rest then .enter scopes (if rest.head? = some '\\' then 2 else 1)
    else .enter scopes 0
  | '/' =>
    if startsRegex before rest then .enter (.literal (.bracket '/' true) 0 :: scopes) 0
    else .enter scopes 0
  | '%' =>
    match percentLiteral? before rest with
    | some (skip, delimiter) => .enter (.literal delimiter 0 :: scopes) skip
    | none => .enter scopes 0
  | '<' =>
    match heredocAt? before rest with
    | some (heredoc, skip) => .go scopes (some heredoc) skip
    | none => .enter scopes 0
  | _ => .enter scopes 0

/-- What a character does. -/
def scanStep (scopes : ScopeStack) (before : List Char) (c : Char) (rest : List Char) : Step :=
  match scopes with
  | .literal delimiter depth :: outer => literalStep delimiter depth outer c rest
  | _ => codeStep scopes before c rest

/-- What scanning a line leaves behind. -/
structure Scanned where
  /-- The scopes that are open at the end. -/
  scopes : ScopeStack
  /-- The here documents announced so far. -/
  heredocs : HeredocQueue
  /-- The comment, with its byte column. -/
  comment : Option (Nat × List Char) := none
deriving Repr, DecidableEq

/-- Scans the part of a line behind `before`, of which the first `skip` characters are passed
over. -/
def scan (scopes : ScopeStack) (heredocs : HeredocQueue) (before : List Char) (skip : Nat) :
    List Char → Scanned
  | [] => { scopes, heredocs }
  | c :: rest =>
    match skip with
    | skip + 1 => scan scopes heredocs (c :: before) skip rest
    | 0 =>
      match scanStep scopes before c rest with
      | .comment => { scopes, heredocs, comment := some (byteLength before, c :: rest) }
      | .go scopes none skip => scan scopes heredocs (c :: before) skip rest
      | .go scopes (some heredoc) skip =>
        scan scopes (heredocs.push heredoc) (c :: before) skip rest

end Marginalia.Ruby
