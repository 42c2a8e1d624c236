/-
**The command line.**

The words of a command line are read from the left.  An option whose value is a word of its own
stays *pending* until the next option or the end, and only then is its value looked at; so a word
that is no option at all is reported before a wrong value in front of it.  What contradicts or needs
something else is looked at last.

* `Args.parse` reads the words.
* `Args.toConfig` makes the configuration of a run from them.
-/

import Marginalia.Cli.Size
import Marginalia.Config

namespace Marginalia.Cli

/-- Why a command line is not carried out. -/
inductive ArgError where
  /-- An option that does not exist. -/
  | unknownArgument
  /-- A value that is missing, or is none of the possible ones. -/
  | invalidValue
  /-- A value that cannot be read. -/
  | valueValidation
  /-- An option given twice, or two that exclude each other. -/
  | argumentConflict
  /-- An option that another one needs is missing. -/
  | missingRequired
  /-- A value where none belongs. -/
  | tooManyValues
  /-- The help was asked for. -/
  | displayHelp
  /-- The version was asked for. -/
  | displayVersion
deriving Repr, DecidableEq, Inhabited

/-- What a word of the command line can be about. -/
inductive Param where
  | format | output | ext | minSize | maxSize | hidden | noGitignore | maxDepth | follow
  | overrideInclude | overrideExclude | jobs | gitDir | target | strict | verbose | quiet
  | help | version | paths
deriving Repr, DecidableEq, Inhabited

namespace Param

/-- The options by their long names. -/
def longNames : List (String × Param) :=
  [("format", format), ("output", output), ("ext", ext), ("min-size", minSize),
    ("max-size", maxSize), ("hidden", hidden), ("no-gitignore", noGitignore),
    ("max-depth", maxDepth), ("follow", follow), ("override-include", overrideInclude),
    ("override-exclude", overrideExclude), ("jobs", jobs), ("git-dir", gitDir),
    ("target", target), ("strict", strict), ("verbose", verbose), ("quiet", quiet),
    ("help", help), ("version", version)]

/-- The options by their letters. -/
def shortNames : List (Char × Param) :=
  [('j', jobs), ('v', verbose), ('q', quiet), ('h', help), ('V', version)]

/-- Whether the option has a value. -/
def takesValue : Param → Bool
  | hidden | noGitignore | follow | strict | verbose | quiet | help | version => false
  | _ => true

/-- Whether the option may be given more than once. -/
def isRepeatable : Param → Bool
  | ext | overrideInclude | overrideExclude | verbose | paths => true
  | _ => false

end Param

/-- What the words of a command line say. -/
structure Args where
  format : OutputFormat := .json
  output : Option Path := none
  ext : List String := []
  minSize : Option Nat := none
  maxSize : Option Nat := none
  hidden : Bool := false
  noGitignore : Bool := false
  maxDepth : Option Nat := none
  follow : Bool := false
  overrideInclude : List String := []
  overrideExclude : List String := []
  jobs : Option Nat := none
  gitDir : Option Path := none
  target : Option String := none
  strict : Bool := false
  /-- How often more messages were asked for. -/
  verbose : Nat := 0
  quiet : Bool := false
  paths : List Path := []
deriving Repr, DecidableEq, Inhabited

namespace Args

/-- A path, which may not be empty. -/
def readPath (text : String) : Except ArgError Path :=
  if text = "" then .error .invalidValue else .ok (.ofString text)

/-- A value that one of the readers of numbers and sizes takes. -/
def validated {ε α : Type} : Except ε α → Except ArgError α
  | .ok value => .ok value
  | .error _ => .error .valueValidation

/-- A format by its name. -/
def readFormat (text : String) : Except ArgError OutputFormat :=
  match text with
  | "json" => .ok .json
  | "jsonl" => .ok .jsonl
  | "yaml" => .ok .yaml
  | _ => .error .invalidValue

/-- Takes in one value of an option. -/
def addValue (args : Args) (param : Param) (text : String) : Except ArgError Args :=
  match param with
  | .format => do return { args with format := ← readFormat text }
  | .output => do return { args with output := some (← readPath text) }
  | .ext => .ok { args with ext := args.ext ++ [text] }
  | .minSize => do return { args with minSize := some (← validated (parseSize text)) }
  | .maxSize => do return { args with maxSize := some (← validated (parseSize text)) }
  | .maxDepth => do
    return { args with maxDepth := some (← validated (parseNumber text.toList)) }
  | .overrideInclude => .ok { args with overrideInclude := args.overrideInclude ++ [text] }
  | .overrideExclude => .ok { args with overrideExclude := args.overrideExclude ++ [text] }
  | .jobs => do return { args with jobs := some (← validated (parseCount text)) }
  | .gitDir => do return { args with gitDir := some (← readPath text) }
  | .target => .ok { args with target := some text }
  | .paths => do return { args with paths := args.paths ++ [← readPath text] }
  | _ => .ok args

/-- Takes in the values of an option, one after the other. -/
def addValues (args : Args) (param : Param) : List String → Except ArgError Args
  | [] => .ok args
  | text :: rest => do (← args.addValue param text).addValues param rest

/-- Takes in an option without a value. -/
def addFlag (args : Args) (param : Param) : Except ArgError Args :=
  match param with
  | .hidden => .ok { args with hidden := true }
  | .noGitignore => .ok { args with noGitignore := true }
  | .follow => .ok { args with follow := true }
  | .strict => .ok { args with strict := true }
  | .verbose => .ok { args with verbose := args.verbose + 1 }
  | .quiet => .ok { args with quiet := true }
  | .help => .error .displayHelp
  | .version => .error .displayVersion
  | _ => .ok args

end Args

/-- How far the reading of a command line has come. -/
structure ArgReader where
  args : Args := {}
  /-- The options that have been taken in. -/
  given : List Param := []
  /-- The option whose values are not yet taken in. -/
  pending : Option (Param × List String) := none
  /-- Whether the next word is the value of the pending option. -/
  awaitsValue : Bool := false
  /-- Whether all further words are paths. -/
  trailing : Bool := false
deriving Repr, Inhabited

namespace ArgReader

/-- Records an option; one that is not repeatable may come only once. -/
def record (reader : ArgReader) (param : Param) : Except ArgError ArgReader :=
  if reader.given.contains param && !param.isRepeatable then .error .argumentConflict
  else .ok { reader with given := param :: reader.given }

/-- The values of an option; only extensions are divided at commas. -/
def divideValues (param : Param) (values : List String) : List String :=
  if param = .ext then values.flatMap fun value => value.splitOn "," else values

/-- Takes in an option with its values, of which there must be one. -/
def takeOption (reader : ArgReader) (param : Param) (values : List String) :
    Except ArgError ArgReader := do
  if values.isEmpty then throw .invalidValue
  let reader ← reader.record param
  return { reader with args := ← reader.args.addValues param (divideValues param values) }

/-- Takes in what is pending. -/
def settle (reader : ArgReader) : Except ArgError ArgReader :=
  match reader.pending with
  | none => .ok reader
  | some (param, values) => { reader with pending := none }.takeOption param values

/-- Takes in an option that stands with its value in one word. -/
def attach (reader : ArgReader) (param : Param) (value : String) : Except ArgError ArgReader := do
  let reader ← (← reader.settle).takeOption param [value]
  return { reader with awaitsValue := false }

/-- Takes in an option without a value. -/
def flag (reader : ArgReader) (param : Param) : Except ArgError ArgReader := do
  let reader ← reader.settle
  match param with
  | .help => throw .displayHelp
  | .version => throw .displayVersion
  | _ =>
    let reader ← reader.record param
    return { reader with args := ← reader.args.addFlag param, awaitsValue := false }

/-- Starts an option whose value is the next word. -/
def await (reader : ArgReader) (param : Param) : Except ArgError ArgReader := do
  let reader ← reader.settle
  return { reader with pending := some (param, []), awaitsValue := true }

/-- Reads a word with two hyphens in front, which are left out. -/
def readLong (reader : ArgReader) (word : List Char) : Except ArgError ArgReader :=
  let name := String.ofList (word.takeWhile (· != '='))
  let value := match word.dropWhile (· != '=') with
    | [] => none
    | _ :: value => some (String.ofList value)
  match Param.longNames.lookup name, value with
  | none, _ => .error .unknownArgument
  | some param, some value =>
    if param.takesValue then reader.attach param value else .error .tooManyValues
  | some param, none => if param.takesValue then reader.await param else reader.flag param

/-- Reads the letters behind one hyphen. -/
def readShort (reader : ArgReader) : List Char → Except ArgError ArgReader
  | [] => .ok reader
  | letter :: rest =>
    match Param.shortNames.lookup letter with
    | none => .error .unknownArgument
    | some param =>
      if param.takesValue then
        match rest with
        | [] => reader.await param
        | '=' :: value => reader.attach param (String.ofList value)
        | value => reader.attach param (String.ofList value)
      else do (← reader.flag param).readShort rest

/-- Reads a word that is a path. -/
def readPath (reader : ArgReader) (word : String) : Except ArgError ArgReader :=
  match reader.pending with
  | some (.paths, values) => .ok { reader with pending := some (.paths, values ++ [word]) }
  | _ => do
    let reader ← reader.settle
    return { reader with pending := some (.paths, [word]), awaitsValue := false }

/-- Reads a word that is no option: a value or a path. -/
def readPlain (reader : ArgReader) (word : String) : Except ArgError ArgReader :=
  match reader.awaitsValue, reader.pending with
  | true, some (param, values) =>
    .ok { reader with pending := some (param, values ++ [word]), awaitsValue := false }
  | _, _ => reader.readPath word

/-- Reads one word. -/
def readWord (reader : ArgReader) (word : String) : Except ArgError ArgReader :=
  if reader.trailing then reader.readPath word
  else
    match word.toList with
    | ['-', '-'] => .ok { reader with trailing := true }
    | '-' :: '-' :: rest => reader.readLong rest
    | '-' :: letter :: rest => reader.readShort (letter :: rest)
    | _ => reader.readPlain word

/-- Reads the words, the first first. -/
def readWords (reader : ArgReader) : List String → Except ArgError ArgReader
  | [] => reader.settle
  | word :: rest => do (← reader.readWord word).readWords rest

/-- What excludes each other or needs something else.  A revision needs a repository, unless paths
stand where the repository would. -/
def check (reader : ArgReader) : Except ArgError Args :=
  let has := reader.given.contains
  if (has .gitDir && has .paths) || (has .quiet && has .verbose) then .error .argumentConflict
  else if has .target && !has .gitDir && !has .paths then .error .missingRequired
  else .ok reader.args

end ArgReader

namespace Args

/-- Reads the words of a command line, without the name of the program. -/
def parse (words : List String) : Except ArgError Args := do
  (← ({} : ArgReader).readWords words).check

/-- The least size of a file is larger than the greatest. -/
structure SizeConflict where
  minSize : Nat
  maxSize : Nat
deriving Repr, DecidableEq

/-- The wording of the fault. -/
def SizeConflict.message (conflict : SizeConflict) : String :=
  "--min-size (" ++ toString conflict.minSize ++ ") is larger than --max-size ("
    ++ toString conflict.maxSize ++ ")"

/-- The bounds of the sizes contradict each other. -/
def sizeConflict? (args : Args) : Option SizeConflict :=
  match args.minSize, args.maxSize with
  | some minSize, some maxSize => if maxSize < minSize then some ⟨minSize, maxSize⟩ else none
  | _, _ => none

/-- The configuration that a command line asks for.  Without paths the search starts in the current
directory. -/
def toConfig (args : Args) : Except SizeConflict Config :=
  match args.sizeConflict? with
  | some conflict => .error conflict
  | none => .ok {
      walk := {
        roots := if args.paths.isEmpty then [.ofString "."] else args.paths
        threads := args.jobs
        hidden := args.hidden
        gitIgnore := !args.noGitignore
        maxDepth := args.maxDepth
        followLinks := args.follow
        overrideInclude := args.overrideInclude
        overrideExclude := args.overrideExclude }
      filter := {
        extraExtensions := args.ext
        minSize := args.minSize
        maxSize := args.maxSize }
      format := args.format
      outputPath := args.output
      strict := args.strict
      git := args.gitDir.map fun gitDir => { gitDir, target := args.target.getD "HEAD" } }

end Args

end Marginalia.Cli
