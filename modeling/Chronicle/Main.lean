import Chronicle.Command.Run
import Std.Time.DateTime.Timestamp

/-!
# The program

Reads the part of the disk that a run works on, runs the command line on it, and writes back what
has changed. What a run will write is known only after a trial, so the run is tried first, and then
made again on a disk where all those places have been looked at.
-/
namespace Chronicle.Program

open Command

/-- The text of the path of a place. -/
def textOf (place : List String) : String :=
  Path.text ⟨"", place⟩

/-- What is at a place of the real disk. -/
def look (place : List String) : IO (Option FileNode) := do
  let .ok handle ← (IO.FS.Handle.mk (textOf place) .read).toBaseIO | return none
  match ← handle.readBinToEnd.toBaseIO with
  | .ok content => return some (.file content.toList)
  | .error _ => return some .directory

/-- Looks at a place and at all places on the way to it. -/
def explore (disk : FileTree) (steps : List String) : IO FileTree := do
  let mut disk := disk
  for place in FileTree.waypoints steps do
    if let some node ← look place then disk := disk.put place node
  return disk

/-- Looks at everything that is passed on the way to a path. -/
def explorePath (disk : FileTree) (p : Path) : IO FileTree :=
  (List.range (p.names.length + 1)).foldlM
    (fun disk n => explore disk (Path.steps { p with names := p.names.take n })) disk

/-- Puts something at a place of the real disk. -/
def store (place : List String) : FileNode → IO Unit
  | .directory => IO.FS.createDirAll (textOf place)
  | .file content => IO.FS.writeBinFile (textOf place) ⟨content.toArray⟩

/-- How settings are read. -/
def readers : Config.Readers :=
  .standard Text.CharacterNames.ascii

/-- Looks at the places that settings name. -/
def exploreConfig (disk : FileTree) (line : Line) : IO FileTree := do
  match Config.load readers disk (Path.ofText line.config) with
  | .error _ => return disk
  | .ok c =>
    let c := c.override line.overrides
    let disk ← explorePath disk (Path.ofText c.backend.directory)
    match c.logging.path with
    | some path => explorePath disk (Path.ofText path)
    | none => return disk

/-- The bench that a run leaves, and the text of what went wrong. -/
def outcome (now : Timestamp) (line : Line) (disk : FileTree) : Option String × Bench :=
  match Bench.run readers now line (Bench.ofDisk disk) with
  | .ok _ b => (none, b)
  | .error e b => (some e.message, b)

/-- Runs a command line on the real disk. -/
def replay (line : Line) : IO UInt32 := do
  let nanos := (← Std.Time.Timestamp.now).toNanosecondsSinceUnixEpoch.val
  let now := Timestamp.ofUnixMicros (nanos / 1000)
  let disk ← explorePath {} (Path.ofText line.config)
  let disk ← explorePath disk (Path.ofText line.input)
  let disk ← exploreConfig disk line
  let (_, trial) := outcome now line disk
  let disk ← (trial.report.disk.changesSince disk).foldlM (fun disk e => explore disk e.1) disk
  let (failure, bench) := outcome now line disk
  for (place, node) in bench.report.disk.changesSince disk do
    store place node
  IO.print (String.ofList bench.stdout)
  match failure with
  | none => return 0
  | some text =>
    IO.eprintln text
    return 1

end Chronicle.Program

/-- Replays an event log into a report. -/
def main (args : List String) : IO UInt32 := do
  match Chronicle.Command.Request.ofTexts args with
  | .ok (.replay line) => Chronicle.Program.replay line
  | .ok .help =>
    IO.print Chronicle.Command.Request.helpText
    return 0
  | .error e =>
    IO.eprint Chronicle.Command.Request.usage
    IO.eprintln (Chronicle.Command.Request.programName ++ ": error: " ++ e.message)
    return 2
