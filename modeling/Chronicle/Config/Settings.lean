import Chronicle.Log.Level
import Chronicle.Log.Sink
import Chronicle.Pattern.Plain

/-!
# Settings

How events are replayed, where the report goes, where the log goes, and what is said about the
environment. Settings given at the command line override those of a file.
-/
namespace Chronicle

/-- The kinds of report. -/
inductive BackendKind where
  | memory | directory
  deriving DecidableEq, Repr, Inhabited

instance : Vocabulary BackendKind where
  all := [.memory, .directory]
  word
    | .memory => "memory"
    | .directory => "results_dir"
  find_word a := by cases a <;> rfl

/-- Settings for the replay. -/
structure RuntimeSettings where
  /-- The context of messages that name none. -/
  defaultContext : String := "0-0"
  /-- The pattern in the names of hooks that run after all tests. -/
  afterAll : Pattern := Pattern.ofWords "after all"
  deriving DecidableEq, Repr, Inhabited

/-- The pattern of settings that give none is that of its text. -/
theorem RuntimeSettings.ofText_afterAll (names : Text.CharacterNames) :
    Pattern.ofText names ({} : RuntimeSettings).afterAll.text
      = .ok ({} : RuntimeSettings).afterAll :=
  Pattern.ofText_of_all_isPlain names (by decide)

/-- Settings for the report. -/
structure BackendSettings where
  kind : BackendKind := .directory
  directory : String := "report-results"
  deriving DecidableEq, Repr, Inhabited

/-- Settings for the log. -/
structure LoggingSettings where
  sink : SinkKind := .nowhere
  path : Option String := none
  level : LogLevel := .info
  deriving DecidableEq, Repr, Inhabited

/-- All settings. -/
structure Config where
  runtime : RuntimeSettings := {}
  backend : BackendSettings := {}
  logging : LoggingSettings := {}
  environment : List (String × String) := []
  deriving DecidableEq, Repr, Inhabited

/-- What a command line says about settings. -/
structure Overrides where
  directory : Option String := none
  sink : Option SinkKind := none
  logPath : Option String := none
  deriving DecidableEq, Repr, Inhabited

/-- The settings with some overridden. A directory for the report also decides its kind, and a path
for the log decides where the log goes unless that is said as well. -/
def Config.override (c : Config) (o : Overrides) : Config :=
  let backend := match o.directory with
    | some d => { c.backend with kind := .directory, directory := d }
    | none => c.backend
  let logging := match o.logPath with
    | some p => { c.logging with path := some p, sink := .file }
    | none => c.logging
  let logging := match o.sink with
    | some k => { logging with sink := k }
    | none => logging
  { c with backend := backend, logging := logging }

end Chronicle
