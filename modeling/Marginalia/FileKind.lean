/-
**Which files hold Ruby.**

The name of a file decides: a few names that are always Ruby, else the extension, compared without
regard to case.  Further extensions can be given.  Names that start with `._` never count; they
hold resource data beside the file of the name that follows.
-/

import Marginalia.Json.Decode
import Marginalia.Text.Lowercase

namespace Marginalia

/-- What a file is taken for. -/
inductive FileType where
  | ruby
  | unsupported
deriving Repr, DecidableEq, Inhabited

namespace FileType

/-- The name of the file type in reports. -/
def name : FileType → String
  | ruby => "RUBY"
  | unsupported => "UNSUPPORTED"

/-- Whether comments are looked for in files of the type. -/
def isSupported : FileType → Bool
  | ruby => true
  | unsupported => false

/-- Reads a file type from its name in reports. -/
def ofJson (value : Json) : Except DecodeError FileType := do
  let name ← value.asVariant [ruby.name, unsupported.name]
  return if name = ruby.name then ruby else unsupported

end FileType

/-- Tells Ruby files by their names. -/
structure FileMatcher where
  /-- Further extensions, in lower case, without their leading dots. -/
  extraExtensions : List String := []
deriving Repr, DecidableEq, Inhabited

namespace FileMatcher

open Marginalia.Text

/-- Extensions of Ruby files. -/
def extensions : List String := ["rb", "rbw", "rake", "gemspec", "ru"]

/-- Names of Ruby files that have no extension. -/
def fileNames : List String :=
  ["Rakefile", "Gemfile", "Guardfile", "Capfile", "Vagrantfile", "Podfile", "Brewfile"]

/-- The form in which a given extension is compared. -/
def normalExtension (extension : String) : String :=
  lowercase (String.ofList (extension.toList.dropWhile (· == '.')))

/-- The matcher for a list of further extensions; one that has nothing but dots is passed over. -/
def ofExtensions (extra : List String) : FileMatcher :=
  { extraExtensions := (extra.map normalExtension).filter (· ≠ "") }

/-- A character that ends the name of a directory. -/
def isSeparator (c : Char) : Bool :=
  c == '/' || c == '\\'

/-- The part of a path behind its last separator. -/
def baseName (path : List Char) : List Char :=
  (path.reverse.takeWhile (!isSeparator ·)).reverse

/-- The parts of a name before and behind its last dot. -/
def splitExtension? (name : List Char) : Option (List Char × List Char) :=
  match name.reverse.dropWhile (· != '.') with
  | [] => none
  | _ :: stem => some (stem.reverse, (name.reverse.takeWhile (· != '.')).reverse)

/-- Whether an extension, in lower case, is one of a Ruby file. -/
def acceptsExtension (matcher : FileMatcher) (extension : String) : Bool :=
  extensions.contains extension || matcher.extraExtensions.contains extension

/-- The type of a file without directories in its name. -/
def typeOfBaseName (matcher : FileMatcher) (name : List Char) : FileType :=
  if ['.', '_'].isPrefixOf name then .unsupported
  else if fileNames.contains (String.ofList name) then .ruby
  else
    match splitExtension? name with
    | some (_ :: _, extension) =>
      if matcher.acceptsExtension (lowercase (String.ofList extension)) then .ruby
      else .unsupported
    | _ => .unsupported

/-- The type of a file; only the part of the path behind the last separator counts. -/
def fileType (matcher : FileMatcher) (path : String) : FileType :=
  matcher.typeOfBaseName (baseName path.toList)

/-- Whether a file is Ruby. -/
def accepts (matcher : FileMatcher) (path : String) : Bool :=
  (matcher.fileType path).isSupported

end FileMatcher

end Marginalia
