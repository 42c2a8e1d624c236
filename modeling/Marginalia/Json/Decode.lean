/-
**Reading domain values out of JSON.**

A value that does not have the form asked for is refused with a cause (`DecodeError`), whose wording
is `DecodeError.message`.  Fields of an object are looked at in the order in which the object holds
them, so of two wrong fields the first is reported; a missing field is reported only after all that
are there were right.
-/

import Marginalia.Json.Writer
import Marginalia.Text.Quoted

namespace Marginalia

/-- Why a JSON value is not the form of a domain value. -/
inductive DecodeError where
  /-- A value of another type. -/
  | wrongType (found : Json) (expected : String)
  /-- A number outside the range. -/
  | wrongValue (found : Int) (expected : String)
  /-- An object with none or several members where one names the case. -/
  | notSingleKey
  /-- A list that is too short or too long. -/
  | wrongLength (length : Nat) (expected : String)
  /-- A field that is not there. -/
  | missingField (name : String)
  /-- A name that is none of the cases. -/
  | unknownVariant (found : String) (expected : List String)
deriving Repr, BEq, Inhabited

namespace DecodeError

/-- Text between grave accents. -/
def ticked (text : String) : String :=
  "\x60" ++ text ++ "\x60"

/-- What was found, in the words of a message. -/
def describe : Json → String
  | .null => "null"
  | .bool value => "boolean " ++ ticked (if value then "true" else "false")
  | .int value => "integer " ++ ticked (String.ofList (Json.writeInt value))
  | .float negative magnitude =>
    "floating point " ++ ticked (String.ofList (Json.writeFloat negative magnitude))
  | .str value => "string " ++ Text.quoted value
  | .arr _ => "sequence"
  | .obj _ => "map"

/-- The cases that would have been right. -/
def describeVariants : List String → String
  | [] => "there are no variants"
  | [only] => "expected " ++ ticked only
  | [first, second] => "expected " ++ ticked first ++ " or " ++ ticked second
  | variants => "expected one of " ++ ", ".intercalate (variants.map ticked)

/-- The wording of the cause. -/
def message : DecodeError → String
  | wrongType found expected => "invalid type: " ++ describe found ++ ", expected " ++ expected
  | wrongValue found expected =>
    "invalid value: " ++ describe (.int found) ++ ", expected " ++ expected
  | notSingleKey => "invalid value: map, expected map with a single key"
  | wrongLength length expected =>
    "invalid length " ++ toString length ++ ", expected " ++ expected
  | missingField name => "missing field " ++ ticked name
  | unknownVariant found expected =>
    "unknown variant " ++ ticked found ++ ", " ++ describeVariants expected

end DecodeError

namespace Json

/-- A string. -/
def asString : Json → Except DecodeError String
  | .str value => .ok value
  | other => .error (.wrongType other "a string")

/-- A list. -/
def asList : Json → Except DecodeError (List Json)
  | .arr items => .ok items
  | other => .error (.wrongType other "a sequence")

/-- A natural number below the word limit. -/
def asWord : Json → Except DecodeError Nat
  | .int (.ofNat value) =>
    if value < wordLimit then .ok value else .error (.wrongValue value "usize")
  | .int value => .error (.wrongValue value "usize")
  | other => .error (.wrongType other "usize")

/-- A field that must be there. -/
def required {α : Type} (name : String) : Option α → Except DecodeError α
  | some value => .ok value
  | none => .error (.missingField name)

/-- A case named by a string, or by the only key of an object whose value is null. -/
def asVariant (names : List String) (value : Json) : Except DecodeError String :=
  let named (name : String) : Except DecodeError String :=
    if names.contains name then .ok name else .error (.unknownVariant name names)
  match value with
  | .str name => named name
  | .obj [(name, content)] => do
    let name ← named name
    match content with
    | .null => return name
    | other => throw (.wrongType other "unit")
  | .obj _ => .error .notSingleKey
  | other => .error (.wrongType other "string or map")

end Json

end Marginalia
