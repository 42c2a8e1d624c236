/-
**What can be wrong with a glob.**
-/

namespace Marginalia.Glob

/-- Why a text is no glob. -/
inductive Fault where
  /-- A class of characters that does not end. -/
  | unclosedClass
  /-- A range whose last character comes before its first. -/
  | invalidRange (first last : Char)
  /-- The end of a group that did not start. -/
  | unopenedGroup
  /-- A group that does not end. -/
  | unclosedGroup
  /-- A backslash at the very end. -/
  | danglingEscape
deriving Repr, DecidableEq, Inhabited

/-- The wording of the fault. -/
def Fault.message : Fault → String
  | unclosedClass => "unclosed character class; missing ']'"
  | invalidRange first last =>
    "invalid range; '" ++ first.toString ++ "' > '" ++ last.toString ++ "'"
  | unopenedGroup =>
    "unopened alternate group; missing '\x7b' (maybe escape '\x7d' with '[\x7d]'?)"
  | unclosedGroup =>
    "unclosed alternate group; missing '\x7d' (maybe escape '\x7b' with '[\x7b]'?)"
  | danglingEscape => "dangling '\\'"

end Marginalia.Glob
