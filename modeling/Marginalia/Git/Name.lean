/-
**The short name of a repository.**

A repository is known by the name of its own directory; if that is `.git`, the name of the work tree
stands in front.
-/

import Marginalia.Path

namespace Marginalia.Git

open Marginalia.Text

/-- The name that a list of components ends in; empty if it ends in none. -/
def lastName (components : List Component) : String :=
  match components.getLast? with
  | some (.normal name) => String.ofList (Utf8.decode name)
  | _ => ""

/-- The short name of the repository in a directory. -/
def repositoryName (directory : Path) : String :=
  let name := lastName directory.components
  if name = ".git" then lastName directory.components.dropLast ++ "/.git" else name

end Marginalia.Git
