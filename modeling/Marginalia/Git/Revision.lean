/-
**Revisions.**

The text of a revision starts with the name of a reference, or with the id of an object, and goes on
with steps from there: `~3` is the third ancestor, `^2` the second parent, `^{tree}` the object of a
kind that an object leads to, and `:path` an entry of the tree.

* `Repository.revision` is the object of a revision.
* `Repository.commitOf` is the commit that a revision leads to.
-/

import Marginalia.Git.Object
import Marginalia.Git.Reference
import Marginalia.Regex.Basic

namespace Marginalia.Git

open Marginalia.Text Marginalia.Disk

/-! ### Names -/

/-- The fewest digits of an id that can stand for it. -/
def shortestId : Nat := 4

/-- The object whose id starts with some digits, if the text is such. -/
def Store.ofDigits? (store : Store) (text : String) : Except Fault (Option Object) :=
  if text = "" || idLength < text.length || !text.toList.all isHexDigit then .ok none
  else if text.length < shortestId then .error .shortId
  else
    match store.startingWith (String.ofList (text.toList.map Char.toLower)) with
    | [] => .ok none
    | [object] => .ok (some object)
    | _ => .error .ambiguousId

/-- A name with a number of commits since and the digits of an id behind it. -/
def describedRegex : Regex Char :=
  let one (c : Char) : Regex Char := .symbol (· == c)
  let many (kind : Char → Bool) : Regex Char := .repeated (.symbol kind) 1 none
  .sequence [.symbol (· != '\n'), one '-', many Char.isDigit, one '-', one 'g', many isHexDigit]

/-- What follows the first hyphen with a `g` behind it. -/
def afterMark : List Char → List Char
  | [] => []
  | '-' :: 'g' :: rest => rest
  | _ :: rest => afterMark rest

/-- The digits of an id in a text that describes a commit. -/
def describedId? (text : String) : Option String :=
  if describedRegex.occursIn text.toList then some (String.ofList (afterMark text.toList)) else none

namespace Repository

/-- The id that the first reference leads to which is there under one of some full names. -/
def firstReference (volume : Volume) (repository : Repository) (text : String) :
    List String → Except Fault (Option String)
  | [] => .ok none
  | name :: rest =>
    if !isRefName name then repository.firstReference volume text rest
    else if longestRefName < name.utf8ByteSize then .error (.longName name)
    else do
      match ← repository.resolve volume text name with
      | some id => return some id
      | none => repository.firstReference volume text rest

/-- The object that a name stands for without being that of a reference. -/
def lookupId (repository : Repository) (name : String) : Except Fault Object := do
  if name.length < idLength then
    if let some object ← repository.store.ofDigits? name then return object
  if let some digits := describedId? name then
    if let some object ← repository.store.ofDigits? digits then return object
  throw (.unknownRevision name)

/-- The object of a name: a whole id, a reference, or the start of an id. -/
def lookup (volume : Volume) (repository : Repository) (text name : String) :
    Except Fault Object := do
  if name.length = idLength then
    if let some object ← repository.store.ofDigits? name then return object
  let names := candidates name
  match ← repository.firstReference volume text names with
  | some id =>
    match repository.store.find? id with
    | some object => return object
    | none => throw (.missingObject id)
  | none =>
    if names.getLast?.any isRefName then repository.lookupId name
    else throw (.invalidRevision text)

end Repository

/-! ### Steps -/

/-- How far the reading of a revision has come. -/
structure RevisionReader where
  /-- The name at the start, as far as it has been read; the last character first. -/
  name : List Char := []
  /-- The object that has been reached. -/
  object : Option Object := none
deriving Repr

/-- One more than the greatest number that can be read. -/
def countLimit : Nat := 0x80000000

/-- The number that decimal digits spell, one if there are none; numbers beyond the limit cannot be
read. -/
def readCount? (digits : List Char) : Option Nat :=
  let value := digits.foldl (fun value c => value * 10 + (c.toNat - '0'.toNat)) 0
  if digits.isEmpty then some 1 else if value < countLimit then some value else none

/-- The number of generations that tildes and numbers between them ask for; the first tilde has been
read.  It is counted in 32 bits. -/
def readGenerations? (text : List Char) : Option Nat := do
  let counts ← ((String.ofList text).splitOn "~").mapM fun digits => readCount? digits.toList
  return counts.foldr (· + ·) 0 % (2 * countLimit)

/-- What braces enclose at the start of a text, and the length of both. -/
def readBraces? : List Char → Option (String × Nat)
  | '{' :: rest =>
    let content := rest.takeWhile (· != '}')
    if content.length < rest.length then some (String.ofList content, content.length + 2) else none
  | _ => none

namespace Repository

/-- The object that has been reached so far: the last one, or that of the name. -/
def reached (volume : Volume) (repository : Repository) (text : String)
    (reader : RevisionReader) : Except Fault Object :=
  match reader.object with
  | some object => .ok object
  | none =>
    if reader.name.isEmpty then .error (.invalidRevision text)
    else repository.lookup volume text (String.ofList reader.name.reverse)

/-- Reads a character of a revision with what stands behind it; returns the number of further
characters read. -/
def readStep (volume : Volume) (repository : Repository) (text : String)
    (reader : RevisionReader) (c : Char) (rest : List Char) :
    Except Fault (RevisionReader × Nat) :=
  let invalid {α : Type} : Except Fault α := .error (.invalidRevision text)
  let store := repository.store
  match c with
  | '^' => do
    let object ← repository.reached volume text reader
    if rest.head? = some '{' then
      let some (kind, count) := readBraces? rest | invalid
      let peeled ← object.peel (.invalidRevision text) kind
      return ({ reader with object := some peeled }, count)
    else
      let digits := rest.takeWhile Char.isDigit
      let some number := readCount? digits | invalid
      let some place := object.peelCommit? | invalid
      let parent ← store.parent place number
      return ({ reader with object := some (.commit parent) }, digits.length)
  | '~' => do
    let run := rest.takeWhile fun c => c == '~' || c.isDigit
    let some generations := readGenerations? run | invalid
    let object ← repository.reached volume text reader
    let some place := object.peelCommit? | invalid
    let ancestor ← store.ancestor place generations
    return ({ reader with object := some (.commit ancestor) }, run.length)
  | ':' => do
    if reader.object.isNone && reader.name.isEmpty then throw .unsupportedRevision
    let object ← repository.reached volume text reader
    let some (place, directory) := object.peelTree? | invalid
    let names := if rest.isEmpty then [] else (String.ofList rest).splitOn "/"
    let entry ← store.entryBelow place directory names
    return ({ reader with object := some entry }, rest.length)
  | _ =>
    if reader.object.isSome || (c = '@' && rest.head? = some '{') then invalid
    else .ok ({ reader with name := c :: reader.name }, 0)

/-- Reads a text, the first `skip` characters of which have been read. -/
def readRevision (volume : Volume) (repository : Repository) (text : String)
    (reader : RevisionReader) (skip : Nat) : List Char → Except Fault RevisionReader
  | [] => .ok reader
  | c :: rest =>
    match skip with
    | skip + 1 => repository.readRevision volume text reader skip rest
    | 0 => do
      let (reader, count) ← repository.readStep volume text reader c rest
      repository.readRevision volume text reader count rest

/-- The object of a revision; `@` alone is what is checked out. -/
def revision (volume : Volume) (repository : Repository) (text : String) :
    Except Fault Object := do
  if text.toList.contains '\x00' then throw .zeroByte
  let text := if text = "@" then "HEAD" else text
  let reader ← repository.readRevision volume text {} 0 text.toList
  repository.reached volume text reader

/-- The commit that a revision leads to, by its place. -/
def commitOf (volume : Volume) (repository : Repository) (text : String) : Except Fault Nat := do
  let object ← repository.revision volume text
  match object.peelCommit? with
  | some place => return place
  | none => throw (.notCommit (repository.store.idOf object))

end Repository

end Marginalia.Git
