import Chronicle.Command.Line
import Chronicle.Config.Reader
import Chronicle.Event.Log
import Chronicle.Session.Registry

/-!
# Running a command line

A run loads the settings, prepares the report and the place for the log, and pushes the messages of
the event log one by one as its lines are read. A message that is pushed only fills the registry, so
an event log that cannot be read to its end leaves the report without a single call. The sessions
are drained when all messages have been pushed, and what is known about the environment is written
last.
-/
namespace Chronicle.Command

/-- Why a run fails. -/
inductive RunError where
  | config (e : ConfigFault)
  /-- The results directory cannot be made. -/
  | directory (e : FileError)
  | sink (e : SinkError)
  | setup (e : Registry.SetupError)
  /-- The event log cannot be opened. -/
  | unreadable (e : FileError)
  | events (e : EventLogError)
  | log (e : LogError)
  | report (e : ReportError)
  deriving Repr, Inhabited

/-- The text of an error. -/
def RunError.message : RunError → String
  | .config e => e.message
  | .directory e | .unreadable e => e.message
  | .sink e => e.message
  | .setup e => e.message
  | .events e => e.message
  | .log e => e.message
  | .report e => e.message

/-- What a run changes: a report, on the disk that all of the run works on, and the standard
output. -/
structure Bench where
  report : Backend := {}
  stdout : List Char := []
  deriving Repr, Inhabited

/-- A part of a run. -/
abbrev Job := EStateM RunError Bench

namespace Bench

/-- The bench of a run that starts on a disk. -/
def ofDisk (disk : FileTree) : Bench :=
  { report := Backend.inMemory disk }

/-- The bench with another report. -/
def withReport (report : Backend) (b : Bench) : Bench :=
  { b with report := report }

/-- What has been put out. -/
def output (b : Bench) : Output :=
  ⟨b.stdout, b.report.disk⟩

/-- The bench after something has been put out. -/
def withOutput (out : Output) (b : Bench) : Bench :=
  { b with stdout := out.stdout, report := { b.report with disk := out.disk } }

/-- An action on the report. -/
def onReport {α : Type} (act : Reporting α) : Job α :=
  Reporter.onPart report withReport .report act

/-- Writes a note to a log, if there is one. -/
def note (sink : Option LogSink) (now : Timestamp) (n : Note) : Job Unit := fun b =>
  match sink with
  | none => .ok () b
  | some s =>
    match s.emit (.ofNote now n) b.output with
    | .ok out => .ok () (b.withOutput out)
    | .error e => .error (.log e) b

/-- The reporter that drives the report and writes notes to a log. -/
def reporter (sink : Option LogSink) (now : Timestamp) : Reporter Bench RunError :=
  Backend.reporter.extend report withReport .report (fun _ => pure ()) fun _ n => note sink now n

/-! ### Parts of a run -/

/-- Loads the settings and overrides some of them. -/
def loadConfig (readers : Config.Readers) (line : Line) : Job Config := fun b =>
  match Config.load readers b.report.disk (Path.ofText line.config) with
  | .ok c => .ok (c.override line.overrides) b
  | .error e => .error (.config e) b

/-- Prepares the report. -/
def openReport (settings : BackendSettings) : Job Unit := fun b =>
  match settings.kind with
  | .memory => .ok () { b with report := Backend.inMemory b.report.disk }
  | .directory =>
    match Backend.inDirectory b.report.disk (Path.ofText settings.directory) with
    | .ok report => .ok () { b with report := report }
    | .error e => .error (.directory e) b

/-- Prepares the place for the log. -/
def openLog (settings : LoggingSettings) : Job (Option LogSink) := fun b =>
  match LogSink.open? (Vocabulary.word settings.sink) settings.path (Vocabulary.word settings.level)
      b.report.disk with
  | .ok (sink, disk) => .ok sink (b.withOutput ⟨b.stdout, disk⟩)
  | .error e => .error (.sink e) b

/-- Makes the registry of sessions. -/
def makeRegistry (settings : RuntimeSettings) : Job Registry := fun b =>
  match Registry.create settings.defaultContext with
  | .ok registry => .ok registry b
  | .error e => .error (.setup e) b

/-- Pushes the messages of an event log, each as soon as its line has been read. -/
def pushEvents (path : Path) (registry : Registry) : Job Registry := fun b =>
  match b.report.disk.readPath path with
  | .error o => .error (.unreadable ⟨o, path⟩) b
  | .ok content =>
    match EventLog.feed path (fun (r : Registry) e => r.push e.contextId e.message) registry
        content with
    | .ok registry => .ok registry b
    | .error e => .error (.events e) b

/-- Replays all sessions of a registry. -/
def drain (machine : Machine Bench RunError) (registry : Registry) : Job Unit := fun b =>
  match Workspace.drainAll machine ⟨registry, b⟩ with
  | .ok _ w => .ok () w.world
  | .error e w => .error e w.world

/-- Writes what is known about the environment. Nothing known leaves no file. -/
def writeEnvironment (info : List (String × String)) : Job Unit :=
  if info.isEmpty then pure () else onReport (Backend.writeEnvironment info)

/-! ### Runs -/

/-- Replays an event log as settings say. -/
def replay (now : Timestamp) (c : Config) (input : Path) : Job Unit := do
  openReport c.backend
  let sink ← openLog c.logging
  let registry ← makeRegistry c.runtime
  let registry ← pushEvents input registry
  drain ⟨reporter sink now, c.runtime.afterAll.occursIn, true⟩ registry
  writeEnvironment c.environment

/-- Runs a command line. -/
def run (readers : Config.Readers) (now : Timestamp) (line : Line) : Job Unit := do
  let c ← loadConfig readers line
  replay now c (Path.ofText line.input)

end Bench

end Chronicle.Command
