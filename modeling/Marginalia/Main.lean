/-
**The command line program.**

The directories that a command line names are read into memory first; then the command line is
carried out on what was read, and what it leaves behind is written.  Only the contents of files that
can matter are read.  What cannot be read is noted with its fault, so that the run meets it there.
Repositories are not read from the disk.
-/

import Marginalia.Cli.Program

namespace Marginalia.Main

open Marginalia.Text Marginalia.Disk

/-- The place that a link leads to if it leads nowhere: no name holds a zero byte. -/
def nowhere : Path := ⟨[slash, 0]⟩

/-- The names of an absolute path. -/
def locationOf (path : String) : Location :=
  (Path.ofString path).components.filterMap fun
    | .normal name => some name
    | _ => none

/-- The fault that an error of the system is. -/
def faultOf : IO.Error → Fault
  | .noFileOrDirectory .. => .notFound
  | .permissionDenied .. => .denied
  | error => .other (toString error)

/-- Reading from the disk, with the files and directories that could not be read. -/
abbrev Loading := StateT (List (Location × Fault)) IO

/-- Notes a file or a directory that cannot be read. -/
def noteFault (path : String) (error : IO.Error) : Loading Unit :=
  modify ((locationOf path, faultOf error) :: ·)

/-- Reads a file of a size.  One that cannot be read keeps its size. -/
def loadFile (path : String) (size : Nat) : Loading Node := do
  match ← (IO.FS.readBinFile path).toBaseIO with
  | .ok contents => return .file contents.toList
  | .error error =>
    noteFault path error
    return .file (List.replicate size 0)

mutual

/-- Reads an entry of a directory, unless it is gone. -/
partial def loadEntry (wanted : String → Bool) (entry : IO.FS.DirEntry) :
    Loading (Option Node) := do
  let path := entry.path.toString
  let .ok metadata ← entry.path.symlinkMetadata.toBaseIO | return none
  match metadata.type with
  | .dir => return some (← loadDirectory wanted path)
  | .file =>
    if wanted entry.fileName then return some (← loadFile path metadata.byteSize.toNat)
    else return some (.file [])
  | .symlink =>
    match ← (IO.FS.realPath path).toBaseIO with
    | .ok target => return some (.link (.ofString target.toString))
    | .error _ => return some (.link nowhere)
  | .other => return none

/-- Reads a directory with everything below it. -/
partial def loadDirectory (wanted : String → Bool) (path : String) : Loading Node := do
  let listed ← (do (← IO.FS.realPath path).readDir : IO _).toBaseIO
  match listed with
  | .error error =>
    noteFault path error
    return .directory []
  | .ok listed =>
    let mut entries : Array (Bytes × Node) := #[]
    for entry in listed do
      if let some node ← loadEntry wanted entry then
        entries := entries.push ((Path.ofString entry.fileName).bytes, node)
    return .directory entries.toList

end

/-- Adds the ignore files of the directories above a location. -/
def loadAbove (top : Node) (location : Location) : IO Node := do
  let mut top := top
  for length in List.range location.length do
    let above := location.take length
    for name in [".ignore", ".gitignore", ".git/info/exclude"] do
      let path := (pathOf above).join (Path.ofString name).bytes
      if let .ok contents ← (IO.FS.readBinFile path.display).toBaseIO then
        top := top.put (above ++ (locationOf name)) (.file contents.toList)
  return top

/-- Adds a file or a directory by its path, if it is there. -/
def loadRoot (wanted : String → Bool) (top : Node) (path : String) : Loading Node := do
  let .ok real ← (IO.FS.realPath path).toBaseIO | return top
  let .ok metadata ← real.metadata.toBaseIO | return top
  let location := locationOf real.toString
  let node ← match metadata.type with
    | .dir => loadDirectory wanted real.toString
    | _ => loadFile real.toString metadata.byteSize.toNat
  loadAbove (top.put location node) location

/-- Reads what a command line is about. -/
def loadWorld (words : List String) : IO Scan.World := do
  let workingDirectory := locationOf (← IO.currentDir).toString
  let top := (Node.directory []).put workingDirectory (.directory [])
  let some config := (Cli.Args.parse words).toOption.bind (·.toConfig.toOption)
    | return { volume := { top, workingDirectory } }
  let wanted (name : String) : Bool :=
    config.filter.matcher.accepts name || name.startsWith "." || name == "exclude"
  let (top, unreadable) ←
    (config.walk.roots.foldlM (fun top root => loadRoot wanted top root.display) top).run []
  return { volume := { top, workingDirectory, unreadable } }

/-- Shows a message. -/
def showLine (line : LogLine) : IO Unit :=
  IO.eprintln ("[" ++ line.level.name ++ " " ++ line.source ++ "] " ++ line.text)

end Marginalia.Main

open Marginalia in
/-- Lists the comments of Ruby files. -/
def main (words : List String) : IO UInt32 := do
  let started ← IO.monoMsNow
  let world ← Main.loadWorld words
  let elapsed := (← IO.monoMsNow) - started
  let output := Cli.execute world words (← IO.getEnv "RUST_LOG") elapsed
  output.log.forM Main.showLine
  IO.print output.stdout
  if let some (path, text) := output.file then IO.FS.writeFile path.display text
  if let some line := output.errorLine then IO.eprintln line
  return output.exitCode.toUInt32
