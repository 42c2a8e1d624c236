/-
**JSON values.**

An object is a list of members in the order in which they were put in.  Putting in a key that is
already there keeps its place and replaces its value (`Json.Members.insert`).
-/

import Marginalia.Decimal.Binary

namespace Marginalia

/-- A JSON value.  Whole numbers of at most 64 bits are kept apart from all other numbers, which are
binary numbers with a sign; zero has one as well. -/
inductive Json where
  | null
  | bool (value : Bool)
  | int (value : Int)
  | float (negative : Bool) (magnitude : Decimal.Binary)
  | str (value : String)
  | arr (items : List Json)
  | obj (members : List (String × Json))
deriving Repr, BEq, Inhabited

namespace Json

/-- One more than the greatest number that a line, column or size can be. -/
def wordLimit : Nat := 0x10000000000000000

/-- A natural number as a JSON value. -/
def nat (value : Nat) : Json :=
  .int value

/-- The members of an object, in order. -/
abbrev Members := List (String × Json)

/-- The value of a key. -/
def Members.get? (members : Members) (key : String) : Option Json :=
  List.lookup key members

/-- Sets the value of a key: a new key goes to the end, a key that is there keeps its place. -/
def Members.insert (members : Members) (key : String) (value : Json) : Members :=
  match members with
  | [] => [(key, value)]
  | (name, old) :: rest =>
    if name = key then (name, value) :: rest else (name, old) :: Members.insert rest key value

/-- The members that a list of pairs puts in, one after the other. -/
def Members.ofList (pairs : List (String × Json)) : Members :=
  pairs.foldl (fun members pair => Members.insert members pair.1 pair.2) []

/-- The value of a key of an object; `none` for every other value. -/
def get? (value : Json) (key : String) : Option Json :=
  match value with
  | .obj members => Members.get? members key
  | _ => none

end Json

end Marginalia
