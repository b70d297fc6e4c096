import Chronicle.Command.Switch
import Chronicle.Config.Settings

/-!
# Command lines

A command line names the settings and the event log, and may override some of the settings. Its
words are taken from left to right; of a switch that comes twice the later value counts.
-/
namespace Chronicle.Command

/-- What a command line asks a replay to do. -/
structure Line where
  config : String
  input : String
  overrides : Overrides := {}
  deriving DecidableEq, Repr, Inhabited

/-- What a command line asks for. -/
inductive Request where
  | help
  | replay (line : Line)
  deriving DecidableEq, Repr, Inhabited

/-- What has been read of a command line. -/
structure Draft where
  config : Option String := none
  input : Option String := none
  overrides : Overrides := {}
  /-- Words that belong to no switch. -/
  surplus : List String := []
  deriving DecidableEq, Repr, Inhabited

namespace Draft

/-- Takes the value of a switch. -/
def set (d : Draft) (value : String) : Switch → Except UsageError Draft
  | .help => .error (.strayValue .help value)
  | .config => .ok { d with config := some value }
  | .input => .ok { d with input := some value }
  | .directory => .ok { d with overrides.directory := some value }
  | .logPath => .ok { d with overrides.logPath := some value }
  | .log =>
    match Vocabulary.ofWord? value with
    | some kind => .ok { d with overrides.sink := some kind }
    | none => .error (.unknownSink value)

/-- Takes a word that belongs to no switch. -/
def leave (d : Draft) (text : String) : Draft :=
  { d with surplus := d.surplus ++ [text] }

/-- Takes words, unless one of them asks for help. -/
def take (d : Draft) : List Word → Except UsageError (Option Draft)
  | [] => .ok (some d)
  | .switch s (some value) :: rest => do (← d.set value s).take rest
  | .switch .help none :: _ => .ok none
  | .switch s none :: .argument value :: rest => do (← d.set value s).take rest
  | .switch s none :: _ => .error (.noValue s)
  | .argument text :: rest | .unknown text :: rest => (d.leave text).take rest
  | .separator :: rest => (d.leave "--").take rest

/-- The switches that are still missing. -/
def missing (d : Draft) : List Switch :=
  (if d.config.isNone then [.config] else []) ++ (if d.input.isNone then [.input] else [])

/-- What the words ask for once all of them have been taken. -/
def finish (d : Draft) : Except UsageError Line :=
  match d.config, d.input with
  | some config, some input =>
    if d.surplus.isEmpty then .ok ⟨config, input, d.overrides⟩ else .error (.leftOver d.surplus)
  | _, _ => .error (.missing d.missing)

end Draft

namespace Request

/-- What the texts of a command line ask for. -/
def ofTexts (texts : List String) : Except UsageError Request := do
  let words ← Word.ofTexts texts
  match ← ({} : Draft).take words with
  | some d => return .replay (← d.finish)
  | none => return .help

/-- The name of the program. -/
def programName : String := "lifecycle-replay"

/-- How the program is called. -/
def usage : String :=
  "usage: " ++ programName ++ " [-h] --config CONFIG --input INPUT\n" ++
  "                        [--results-dir RESULTS_DIR]\n" ++
  "                        [--log \x7bnone,stdout,jsonl\x7d] [--log-path LOG_PATH]\n"

/-- The text that help shows. -/
def helpText : String :=
  usage ++
  "\n" ++
  "Replay a test lifecycle event log into a report\n" ++
  "\n" ++
  "options:\n" ++
  "  -h, --help            show this help message and exit\n" ++
  "  --config CONFIG       Path to YAML config\n" ++
  "  --input INPUT         Path to JSONL lifecycle event log\n" ++
  "  --results-dir RESULTS_DIR\n" ++
  "                        Override backend results directory\n" ++
  "  --log \x7bnone,stdout,jsonl\x7d\n" ++
  "                        Override structured log sink\n" ++
  "  --log-path LOG_PATH   Override JSONL log file path\n"

end Request

end Chronicle.Command
