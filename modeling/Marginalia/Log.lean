/-
**Messages about a run.**

A message has a level and the name of the part of the program that it comes from.  A `LogFilter`
decides which messages are shown: of its rules the one with the longest name that the message's
source starts with counts, and a rule without a name is for all the rest.

* `LogLevel.ofFlags` is the level that the command line asks for.
* `LogFilter.addSpec` adds the rules of an environment variable.
-/

import Marginalia.Regex.Parser

namespace Marginalia

/-- How much is shown, from nothing to everything; and how important a message is. -/
inductive LogLevel where
  | off
  | error
  | warn
  | info
  | debug
  | trace
deriving Repr, DecidableEq, Inhabited

namespace LogLevel

/-- The name of the level. -/
def name : LogLevel → String
  | off => "OFF"
  | error => "ERROR"
  | warn => "WARN"
  | info => "INFO"
  | debug => "DEBUG"
  | trace => "TRACE"

/-- The place of the level, from the most important on. -/
def rank : LogLevel → Nat
  | off => 0
  | error => 1
  | warn => 2
  | info => 3
  | debug => 4
  | trace => 5

/-- The level that the command line asks for: more with every `-v`, nothing with `-q`. -/
def ofFlags (verbose : Nat) (quiet : Bool) : LogLevel :=
  if quiet then off
  else
    match verbose with
    | 0 => warn
    | 1 => info
    | 2 => debug
    | _ => trace

/-- A level by its name, in upper or lower case. -/
def ofName? (text : String) : Option LogLevel :=
  [off, error, warn, info, debug, trace].find? fun level =>
    level.name == String.ofList (text.toList.map Char.toUpper)

end LogLevel

/-- A message. -/
structure LogLine where
  level : LogLevel
  /-- The part of the program that the message comes from. -/
  source : String
  text : String
deriving Repr, DecidableEq, Inhabited

/-- A rule of a filter: messages from sources whose names start with `name` are shown up to
`level`. -/
structure LogRule where
  name : Option String
  level : LogLevel
deriving Repr, DecidableEq, Inhabited

/-- Which messages are shown. -/
structure LogFilter where
  rules : List LogRule
  /-- An expression that matches somewhere in every shown message. -/
  search : Option (Regex Char) := none
deriving Inhabited

namespace LogFilter

/-- The filter that shows messages of all sources up to a level. -/
def ofLevel (level : LogLevel) : LogFilter :=
  { rules := [⟨none, level⟩] }

/-- Adds a rule; one of the same name is replaced. -/
def insert (filter : LogFilter) (rule : LogRule) : LogFilter :=
  if filter.rules.any (·.name == rule.name) then
    { filter with rules := filter.rules.map fun old => if old.name = rule.name then rule else old }
  else { filter with rules := filter.rules ++ [rule] }

/-- The text without white space at either end. -/
def trimmed (text : String) : String :=
  String.ofList (Text.trim text.toList)

/-- The rule that a part of a specification spells: a level for all sources, a name for everything
of a source, or a name and a level. -/
def rule? (part : String) : Option LogRule :=
  match part.splitOn "=" with
  | [single] =>
    match LogLevel.ofName? single with
    | some level => some ⟨none, level⟩
    | none => some ⟨some single, .trace⟩
  | [name, level] =>
    let level := trimmed level
    if level = "" then some ⟨some name, .trace⟩
    else (LogLevel.ofName? level).map fun level => ⟨some name, level⟩
  | _ => none

/-- Adds the rules of a specification: parts with commas between them, perhaps a slash and an
expression to search for behind.  What makes no sense is passed over, and so is everything if there
are several slashes. -/
def addSpec (filter : LogFilter) (spec : String) : LogFilter :=
  match spec.splitOn "/" with
  | [rules] => addRules { filter with search := none } rules
  | [rules, search] => addRules { filter with search := Regex.parse? search } rules
  | _ => { filter with search := none }
where
  addRules (filter : LogFilter) (rules : String) : LogFilter :=
    let parts := (rules.splitOn ",").map trimmed
    ((parts.filter (· ≠ "")).filterMap rule?).foldl insert filter

/-- Whether a rule is about a source. -/
def covers (rule : LogRule) (source : String) : Bool :=
  rule.name.all fun name => name.toList.isPrefixOf source.toList

/-- The level up to which messages of a source are shown. -/
def levelOf (filter : LogFilter) (source : String) : LogLevel :=
  let covering := filter.rules.filter (covers · source)
  let longest := covering.foldl (fun (best : Option LogRule) rule =>
    match best with
    | none => some rule
    | some best =>
      if (best.name.getD "").length ≤ (rule.name.getD "").length then some rule else some best)
    none
  (longest.map (·.level)).getD .off

/-- Whether a message is shown. -/
def shows (filter : LogFilter) (line : LogLine) : Bool :=
  line.level.rank ≤ (filter.levelOf line.source).rank
    && filter.search.all (·.occursIn line.text.toList)

end LogFilter

end Marginalia
