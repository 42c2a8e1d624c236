/-
**What can go wrong on a disk.**

A fault that the system reports has a number, which is part of its text.
-/

namespace Marginalia.Disk

/-- Why a file or a directory cannot be reached. -/
inductive Fault where
  /-- Nothing has that name. -/
  | notFound
  /-- A name on the way is that of a file. -/
  | notDirectory
  /-- A directory stands where a file belongs. -/
  | isDirectory
  /-- Symbolic links lead to each other too often. -/
  | tooManyLinks
  /-- A path or one of its names has too many bytes. -/
  | nameTooLong
  /-- A path holds a zero byte, which no name can. -/
  | zeroByte
  /-- Reading is not allowed. -/
  | denied
  /-- Anything else, in the words that came with it. -/
  | other (text : String)
deriving Repr, DecidableEq, Inhabited

namespace Fault

/-- The fault in words. -/
def reason : Fault → String
  | notFound => "No such file or directory"
  | notDirectory => "Not a directory"
  | isDirectory => "Is a directory"
  | tooManyLinks => "Too many levels of symbolic links"
  | nameTooLong => "File name too long"
  | zeroByte => "file name contained an unexpected NUL byte"
  | denied => "Permission denied"
  | other text => text

/-- The number of the fault. -/
def number? : Fault → Option Nat
  | notFound => some 2
  | notDirectory => some 20
  | isDirectory => some 21
  | tooManyLinks => some 40
  | nameTooLong => some 36
  | denied => some 13
  | zeroByte | other _ => none

/-- The fault in words, with its number. -/
def message (fault : Fault) : String :=
  match fault.number? with
  | some number => fault.reason ++ " (os error " ++ toString number ++ ")"
  | none => fault.reason

end Fault

end Marginalia.Disk
