import DeadCode.Calendar
import DeadCode.Cli.Run
import DeadCode.Disk.Changes
import DeadCode.Php.Program

/-!
# The program

Reads the files that a command needs, runs it, and writes what it has changed.
-/

namespace DeadCode.Program
set_option autoImplicit false

/-- The time of a file. -/
def timeOf (t : IO.FS.SystemTime) : Decimal := Decimal.ofRatio false (t.sec.toNat * 1000000000 + t.nsec.toNat) 1000000000

/-- Takes a path with everything below it onto the disk. Links to directories are not followed. -/
partial def load (d : Disk) (p : Path) : IO Disk := do
  let place := (← IO.currentDir) / p.text
  if !(← place.pathExists) then return d
  let info ← place.metadata
  match info.type with
  | .dir =>
    let mut d := (d.makeDirectories p).toOption.getD d
    for e in ← place.readDir do
      let child := p.below e.fileName
      let kind := (← e.path.symlinkMetadata).type
      let isLink := match kind with
        | .symlink => true
        | _ => false
      if !isLink || !(← e.path.isDir) then d ← load d child
    return d
  | _ =>
    let d := (d.makeDirectories p.parent).toOption.getD d
    return d.put p (.file (← IO.FS.readBinFile place).toList (timeOf info.modified))

/-- Takes a file onto the disk, or the directory in which it would be. -/
def loadFile (d : Disk) (p : Path) : IO Disk := do
  let here ← IO.currentDir
  if (← (here / p.text).isDir) then return (d.makeDirectories p).toOption.getD d
  let d := if (← (here / p.parent.text).isDir) then (d.makeDirectories p.parent).toOption.getD d else d
  load d p

/-- Does a change. -/
def perform : Change → IO Unit
  | .write path bytes => IO.FS.writeBinFile path.text ⟨bytes.toArray⟩
  | .makeDirectory path => IO.FS.createDirAll path.text
  | .remove path => IO.FS.removeFile path.text

/-- The time of the system, taken from a file that is made for it. -/
def clock : IO IO.FS.SystemTime := do
  let (_, path) ← IO.FS.createTempFile
  let info ← path.metadata
  IO.FS.removeFile path
  return info.modified

/-- The values of variables. -/
def valuesOf (names : List String) : IO (List (String × String)) := do
  names.filterMapM fun n => return (← IO.getEnv n).map (n, ·)

/-- Reads what a command needs. -/
def gather (s : Cli.Surroundings) (c : Cli.Command) : IO (Disk × Cli.Surroundings) := do
  let mut d : Disk := default
  match c.path? with
  | none => return (d, s)
  | some path =>
    let root := s.locate path
    d ← load d root
    d ← loadFile d root
    let base := Project.baseOf d root
    d ← load d base
    for file in c.files do
      d ← loadFile d (s.locate file)
    let environment ← valuesOf (Config.variableNames ++ Config.mentioned d base)
    let s := { s with environment }
    if let .ok config := s.configFor d root c.config? then
      if let .ok directory := config.cacheDir then
        d ← load d (s.moment.here.resolve directory)
    return (d, s)

/-- Runs a command. -/
def run (c : Cli.Command) : IO UInt32 := do
  let now ← clock
  let here := Path.ofString (← IO.currentDir).toString
  let moment : Moment := ⟨here, timeOf now, Calendar.stamp now.sec (now.nsec.toNat / 1000), Php.platform⟩
  let (disk, s) ← gather { moment } c
  let (result, world) := (c.run s).run { disk }
  for line in world.logs do
    if c.isVerbose || line.level != .info then IO.eprintln line.text
  (disk.changesTo world.disk).forM perform
  match result with
  | .ok ending =>
    IO.print ending.shown
    return ending.code.toUInt32
  | .error e =>
    IO.eprintln ("Error: " ++ e.message)
    return 1

end DeadCode.Program

/-- Reads the command line and runs it. -/
def main (args : List String) : IO UInt32 := do
  match DeadCode.Cli.Command.read args with
  | .ok command => DeadCode.Program.run command
  | .error e =>
    IO.eprintln ("Error: " ++ e.message)
    return 2
