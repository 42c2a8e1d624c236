/-
**Embedded documents.**

A `DocBlock` is idle or holds the document that is open.  No order of calls is an error: a second
opening line inside a document is one more line of it, and a closing line outside any is ignored.
-/

import Marginalia.Comment.Basic

namespace Marginalia

/-- The embedded document that is being collected, if one is open. -/
inductive DocBlock where
  | idle
  | collecting (comment : Comment)
deriving Repr, DecidableEq

namespace DocBlock

instance : Inhabited DocBlock := ⟨idle⟩

/-- The document collected so far. -/
def collected? : DocBlock → Option Comment
  | idle => none
  | collecting comment => some comment

/-- Whether a document is open. -/
def isOpen (block : DocBlock) : Bool :=
  block.collected?.isSome

/-- Opens a document, or adds the line to the one that is open. -/
def start (block : DocBlock) (text : String) (line column : Nat) : DocBlock :=
  match block with
  | idle => collecting (Comment.ofFragment text line column)
  | collecting comment => collecting (comment.extend text line)

/-- Adds a line to the open document; `none` if none is open. -/
def append? (block : DocBlock) (text : String) (line : Nat) : Option DocBlock :=
  match block with
  | idle => none
  | collecting comment => some (collecting (comment.extend text line))

/-- Hands out what has been collected. -/
def take (block : DocBlock) : DocBlock × Option Comment :=
  (idle, block.collected?)

/-- Adds the closing line and hands out the document.  Outside a document nothing happens. -/
def close (block : DocBlock) (text : String) (line : Nat) : DocBlock × Option Comment :=
  match block.append? text line with
  | some extended => extended.take
  | none => (block, none)

/-- Moves the open document to another column; `none` if none is open. -/
def setColumn? (block : DocBlock) (column : Nat) : Option DocBlock :=
  match block with
  | idle => none
  | collecting comment => some (collecting { comment with column })

end DocBlock

end Marginalia
