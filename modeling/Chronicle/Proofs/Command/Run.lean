import Chronicle.Command.Run
import Chronicle.Proofs.Event.Log
import Chronicle.Proofs.Report.Saving
import Chronicle.Proofs.Session.Uses

/-!
# Runs are all or nothing

A run prepares a report and a place for its log, fills the registry while it reads the event log,
and then drains. Nothing but the registry changes before that, so an event log that cannot be read
to its end leaves a report without a call, however many events come before the place where it fails.
What is known about the environment is written last, when every session has been drained:
`Bench.run_of_wire`.
-/
namespace Chronicle

/-- The places that a log is written to. -/
def LogSink.places : Option LogSink → List (List String)
  | some ⟨.file path, _⟩ => [path.steps]
  | _ => []

/-- A message for the log is written to the log and nowhere else. -/
private theorem LogSink.find?_emit {s : LogSink} {m : LogMessage} {out out' : Output}
    (h : s.emit m out = .ok out') {place : List String} (hplace : place ∉ places (some s)) :
    out'.disk.find? place = out.disk.find? place := by
  unfold emit at h
  -- a message below the threshold is not put out at all
  split at h
  · cases h
    rfl
  split at h <;> cases h
  obtain ⟨target, threshold⟩ := s
  -- only a file is changed, and that is the place of the log
  cases target with
  | stdout => rfl
  | file path =>
    simp only [LogTarget.put]
    split
    next happend =>
      exact FileTree.find?_edit_of_ne happend fun heq => hplace (heq ▸ List.mem_singleton_self _)
    next => rfl

namespace Command.Bench

/-- What a run prepares before it reads the event log. -/
def wire (c : Config) : Job (Option LogSink × Registry) := do
  openReport c.backend
  let sink ← openLog c.logging
  let registry ← makeRegistry c.runtime
  return (sink, registry)

variable {readers : Config.Readers} {now : Timestamp} {line : Line} {disk : FileTree} {c : Config}
  {sink : Option LogSink}
  {registry : Registry} {b b' : Bench}

/-! ### Preparations -/

/-- Nothing has been reported, and no file has been touched since `disk`. Only the log may have been
made, empty. -/
structure Untouched (disk : FileTree) (sink : Option LogSink) (b : Bench) : Prop where
  calls : b.report.calls = []
  saved : b.report.saved = []
  stdout : b.stdout = []
  files : FileTree.KeepsFiles (LogSink.places sink) disk b.report.disk

/-- A report that is opened has no calls, and changes no file but its directory. -/
private theorem untouched_openReport {settings : BackendSettings}
    (h : Runs (openReport settings) (ofDisk disk) () b) : Untouched disk none b := by
  simp only [Runs, openReport, ofDisk] at h
  -- a report in memory needs no directory
  split at h
  · cases h
    exact ⟨rfl, rfl, rfl, .refl disk⟩
  · simp only [Backend.inDirectory, Backend.inMemory] at h
    cases hmake : disk.makeDirectories (Path.ofText settings.directory).steps with
    | error o => simp only [hmake] at h; cases h
    | ok disk' =>
      simp only [hmake] at h
      cases h
      -- directories are no files, so none has changed
      exact ⟨rfl, rfl, rfl, .makeDirectories hmake⟩

/-- To prepare a place for a file keeps all other files. -/
theorem keepsFiles_prepare {path : Path} {disk' : FileTree}
    (h : LogSink.prepare path disk = .ok disk') :
    FileTree.KeepsFiles [path.steps] disk disk' := by
  simp only [LogSink.prepare] at h
  cases hmake : disk.makeDirectories path.parent.steps with
  | error o => simp only [hmake] at h; cases h
  | ok disk₁ =>
    simp only [hmake] at h
    cases happend : disk₁.append path.steps [] with
    | error o => simp only [happend] at h; cases h
    | ok disk₂ =>
      simp only [happend] at h
      cases h
      -- nothing is appended yet, which at most makes the file
      exact (FileTree.KeepsFiles.makeDirectories hmake).trans (.append_nil happend)

/-- To open a log keeps all files but its own. -/
private theorem keepsFiles_open? {settings : LoggingSettings} {disk' : FileTree}
    (h : LogSink.open? (Vocabulary.word settings.sink) settings.path
      (Vocabulary.word settings.level) disk = .ok (sink, disk')) :
    FileTree.KeepsFiles (LogSink.places sink) disk disk' := by
  simp only [LogSink.open?, Vocabulary.ofWord?_word] at h
  -- only a log in a file touches the disk
  cases hkind : settings.sink with
  | nowhere => simp only [hkind] at h; cases h; exact .refl disk
  | stdout => simp only [hkind] at h; cases h; exact .refl disk
  | file =>
    simp only [hkind] at h
    split at h
    · cases h
    · cases h
    · split at h
      · cases h
      next hprepare => cases h; exact keepsFiles_prepare hprepare

/-- A log that is opened makes no call to the report. -/
private theorem untouched_openLog {settings : LoggingSettings} (hb : Untouched disk none b)
    (h : Runs (openLog settings) b sink b') : Untouched disk sink b' := by
  simp only [Runs, openLog] at h
  split at h
  next hopen =>
    cases h
    exact ⟨hb.calls, hb.saved, hb.stdout, hb.files.trans (keepsFiles_open? hopen)⟩
  next => cases h

/-- To make a registry changes nothing else. -/
private theorem eq_of_makeRegistry {settings : RuntimeSettings}
    (h : Runs (makeRegistry settings) b registry b') : b' = b := by
  simp only [Runs, makeRegistry] at h
  split at h <;> cases h
  rfl

/-- So nothing is touched before the first event. -/
private theorem untouched_wire (h : Runs (wire c) (ofDisk disk) (sink, registry) b) :
    Untouched disk sink b := by
  obtain ⟨_, b₁, hreport, h⟩ := h.exists_of_bind
  obtain ⟨sink', b₂, hlog, h⟩ := h.exists_of_bind
  obtain ⟨registry', b₃, hregistry, h⟩ := h.exists_of_bind
  cases h
  rw [eq_of_makeRegistry hregistry]
  exact untouched_openLog (untouched_openReport hreport) hlog

/-! ### Replaying -/

/-- What has happened to the report of a bench. -/
abbrev Reports (sink : Option LogSink) (b b' : Bench) : Prop :=
  b.report.SavesRecords (LogSink.places sink) b'.report

/-- A note goes to the log and not to the report. -/
private theorem keeps_note (n : Note) : Keeps (Reports sink) (note sink now n) := by
  intro b
  cases sink with
  | none => exact .refl b.report
  | some s =>
    simp only [note]
    -- a message that cannot be put out leaves the output as it was
    cases hemit : s.emit (.ofNote now n) b.output with
    | error e => exact .refl b.report
    | ok out =>
      refine ⟨List.prefix_rfl, rfl, ⟨[], (List.append_nil _).symm, nofun⟩, fun root _ hplace => ?_⟩
      exact LogSink.find?_emit hemit hplace

/-- Neither calls nor notes touch what is known about the environment. -/
theorem keeping_reporter : (reporter sink now).Keeping (Reports sink) where
  refl b := .refl b.report
  trans _ _ _ := .trans _ _ _
  call c := by
    rw [reporter, Call.run_extend]
    refine .bind (fun _ _ _ => .trans _ _ _) (.pure (fun b => .refl b.report) ()) fun _ => ?_
    exact (Backend.keeps_call c).onPart fun b report h => h
  note _ n := keeps_note n

/-- Nothing but the file of the environment has been saved. -/
def EnvironmentOnly (info : List (String × String)) (b b' : Backend) : Prop :=
  b'.calls = b.calls
    ∧ (b'.saved = b.saved
      ∨ b'.saved = b.saved ++ [(Environment.fileName, Environment.content info)])

/-- The environment is one file, and changes nothing else of the report. -/
private theorem keeps_writeEnvironment (info : List (String × String)) :
    Keeps (fun b b' : Bench => EnvironmentOnly info b.report b'.report)
      (writeEnvironment info) := by
  -- the report saves one file, or fails before it has changed anything
  have hreport : Keeps (EnvironmentOnly info) (Backend.writeEnvironment info) := by
    intro b
    rw [Backend.writeEnvironment, Backend.save, (Runs.get b).bind_eq]
    cases hd : b.destination with
    | memory => exact ⟨rfl, .inl rfl⟩
    | directory root =>
      cases hwrite : b.disk.write (root.child Environment.fileName).steps
          (Environment.content info) with
      | error o => simp only [hwrite]; exact ⟨rfl, .inl rfl⟩
      | ok disk => simp only [hwrite]; exact ⟨rfl, .inr rfl⟩
  rw [writeEnvironment]
  -- without entries there is no file
  by_cases hinfo : info.isEmpty = true
  · rw [if_pos hinfo]
    exact .pure (fun _ => ⟨rfl, .inl rfl⟩) ()
  · rw [if_neg hinfo]
    exact hreport.onPart fun b report h => h

/-! ### Runs -/

/-- The machine that a run replays with. -/
def machine (now : Timestamp) (c : Config) (sink : Option LogSink) : Machine Bench RunError :=
  ⟨reporter sink now, c.runtime.afterAll.occursIn, true⟩

/-- The registry with the messages of events. -/
def filled (registry : Registry) (events : List Event) : Registry :=
  registry.pushAll (events.map fun e => (e.contextId, e.message))

/-- How a run goes on when everything has been prepared. -/
def proceed (now : Timestamp) (c : Config) (input : Path) (sink : Option LogSink)
    (registry : Registry) : Job Unit := do
  let registry ← pushEvents input registry
  drain (machine now c sink) registry
  writeEnvironment c.environment

/-- An event log that is read to its end fills the registry. -/
private theorem pushEvents_of_read {input : Path} {content : Bytes} {events : List Event}
    (hread : b.report.disk.readPath input = .ok content)
    (hlog : EventLog.read input content = (events, none)) :
    Runs (pushEvents input registry) b (filled registry events) b := by
  simp only [Runs, pushEvents, hread, EventLog.feed_of_read hlog, filled, Registry.pushAll,
    List.foldl_map]

/-- With settings that load and wiring that succeeds, a run proceeds. -/
private theorem run_eq_proceed
    (hconfig : Config.load readers disk (Path.ofText line.config) = .ok c)
    (hwire : Runs (wire (c.override line.overrides)) (ofDisk disk) (sink, registry) b) :
    run readers now line (ofDisk disk)
      = proceed now (c.override line.overrides) (Path.ofText line.input) sink registry b := by
  have hload : Runs (loadConfig readers line) (ofDisk disk) (c.override line.overrides)
      (ofDisk disk) := by
    simp only [Runs, loadConfig, ofDisk, Backend.inMemory, hconfig]
  have hreplay : replay now (c.override line.overrides) (Path.ofText line.input)
      = (wire (c.override line.overrides) >>= fun wired =>
          proceed now (c.override line.overrides) (Path.ofText line.input) wired.1 wired.2) := by
    simp only [replay, wire, proceed, machine, bind_assoc, pure_bind]
  rw [run, hload.bind_eq, hreplay, hwire.bind_eq]

/-- What a run comes to when its settings are loaded and everything is prepared. The report has no
calls by then, and every file is as it was. If the event log cannot be opened or read to its end,
the run fails with that error and leaves it at that. Otherwise all sessions are drained, which
writes nothing about the environment. If that succeeds, no session is left, and then what is known
about the environment is written, which is one file at most. -/
theorem run_of_wire (now : Timestamp) (line : Line) {settings : Config}
    (hload : Config.load readers disk (Path.ofText line.config) = .ok c)
    (hsettings : settings = c.override line.overrides)
    (hwire : Runs (wire settings) (ofDisk disk) (sink, registry) b) :
    Untouched disk sink b
    ∧ (∀ o, b.report.disk.readPath (Path.ofText line.input) = .error o →
      run readers now line (ofDisk disk) = .error (.unreadable ⟨o, Path.ofText line.input⟩) b)
    ∧ ∀ content events, b.report.disk.readPath (Path.ofText line.input) = .ok content →
      (∀ e, EventLog.read (Path.ofText line.input) content = (events, some e) →
        run readers now line (ofDisk disk) = .error (.events e) b)
      ∧ (EventLog.read (Path.ofText line.input) content = (events, none) →
        ∃ w : Workspace Bench, Reports sink b w.world
          ∧ ((∃ e, Workspace.drainAll (machine now settings sink) ⟨filled registry events, b⟩
                = .error e w
              ∧ run readers now line (ofDisk disk) = .error e w.world)
            ∨ Runs (Workspace.drainAll (machine now settings sink)) ⟨filled registry events, b⟩ () w
              ∧ w.registry.sessions = []
              ∧ run readers now line (ofDisk disk) = writeEnvironment settings.environment w.world
              ∧ ∀ b', (run readers now line (ofDisk disk) = .ok () b'
                  ∨ ∃ e, run readers now line (ofDisk disk) = .error e b') →
                EnvironmentOnly settings.environment w.world.report b'.report)) := by
  subst hsettings
  rw [run_eq_proceed hload hwire]
  -- either failure happens before the first call, so the bench is as wiring has left it
  refine ⟨untouched_wire hwire, fun o hread => ?_, fun content events hread => ⟨fun e hlog => ?_,
    fun hlog => ?_⟩⟩
  · have hevents : pushEvents (Path.ofText line.input) registry b
        = .error (.unreadable ⟨o, Path.ofText line.input⟩) b := by
      simp only [pushEvents, hread]
    exact error_of_bind hevents _
  · have hevents : pushEvents (Path.ofText line.input) registry b = .error (.events e) b := by
      simp only [pushEvents, hread, EventLog.feed_of_read_error hlog]
    exact error_of_bind hevents _
  rw [proceed, (pushEvents_of_read hread hlog).bind_eq]
  -- the log of the run grows while the report is drained, whether the drain returns or not
  have hkeeps := Workspace.keeps_drainAll
    (m := machine now (c.override line.overrides) sink) keeping_reporter
  cases hdrain : Workspace.drainAll (machine now (c.override line.overrides) sink)
      ⟨filled registry events, b⟩ with
  | error e w =>
    have hfails : drain (machine now (c.override line.overrides) sink) (filled registry events) b
        = .error e w.world := by
      simp only [drain, hdrain]
    exact ⟨w, hkeeps.error hdrain, .inl ⟨e, rfl, error_of_bind hfails _⟩⟩
  -- once everything is drained, the environment is all that is left to write
  | ok a w =>
    have hdrained : Runs (drain (machine now (c.override line.overrides) sink)
        (filled registry events)) b () w.world := by
      simp only [Runs, drain, hdrain]
    rw [hdrained.bind_eq]
    have hlast := keeps_writeEnvironment (c.override line.overrides).environment
    refine ⟨w, hkeeps.ok hdrain, .inr ⟨hdrain, Workspace.sessions_drainAll hdrain, rfl, ?_⟩⟩
    rintro b' (hend | ⟨e, hend⟩)
    · exact hlast.ok hend
    · exact hlast.error hend

/-- An event log whose second line is no event. -/
def brokenEvents : String :=
  "\x7b\"type\": \"suite_end\"\x7d\nx"

/-- Settings with a log and something known about the environment. -/
def loggedSettings : String :=
  "version: 1\nlogging:\n  sink: jsonl\n  path: log\nenvironment:\n  os: a\n"

/-- A disk with these settings and that event log. -/
def brokenDisk : FileTree :=
  .ofFiles [
    (Path.ofText "settings", Utf8.encode loggedSettings.toList),
    (Path.ofText "events", Utf8.encode brokenEvents.toList)]

/-- What the settings say. -/
def brokenSettings : Config :=
  { logging := { sink := .file, path := some "log" }, environment := [("os", "a")] }

/-- The settings of the example are read from its disk. -/
private theorem load_brokenDisk :
    Config.load (.standard .ascii) brokenDisk (Path.ofText "settings") = .ok brokenSettings := by
  have hloaded : (Config.load (.standard .ascii) brokenDisk (Path.ofText "settings")).toOption
      = some brokenSettings := by
    decide +kernel
  cases hload : Config.load (.standard .ascii) brokenDisk (Path.ofText "settings") with
  | error f => rw [hload] at hloaded; cases hloaded
  | ok c => rw [hload] at hloaded; cases hloaded; rfl

/-- The event before the broken line is not reported. The directory for the report is there by then,
and so is the log. -/
theorem run_of_wire_broken_line :
    Config.load (.standard .ascii) brokenDisk (Path.ofText "settings") = .ok brokenSettings
    ∧ brokenSettings = brokenSettings.override {}
    ∧ ∃ b, Runs (wire brokenSettings) (ofDisk brokenDisk)
        (some ⟨.file (Path.ofText "log"), .info⟩, {}) b
      ∧ b.report.calls = []
      ∧ run (.standard .ascii) default ⟨"settings", "events", {}⟩ (ofDisk brokenDisk)
        = .error (.events (.notJson (Path.ofText "events") 2)) b := by
  have hwire : Runs (wire brokenSettings) (ofDisk brokenDisk)
      (some ⟨.file (Path.ofText "log"), .info⟩, {})
      { report := {
          destination := .directory (Path.ofText "report-results")
          disk := (brokenDisk.put ["report-results"] .directory).put ["log"] (.file []) } } := rfl
  -- the first line is an event, the second one is no JSON
  have hevents : EventLog.read (Path.ofText "events") (Utf8.encode brokenEvents.toList)
      = ([⟨none, .suiteEnd⟩], some (.notJson (Path.ofText "events") 2)) := by
    decide +kernel
  obtain ⟨huntouched, -, hread⟩ :=
    run_of_wire default ⟨"settings", "events", {}⟩ load_brokenDisk rfl hwire
  exact ⟨load_brokenDisk, rfl, _, hwire, huntouched.calls, (hread _ _ rfl).1 _ hevents⟩

end Command.Bench

end Chronicle
