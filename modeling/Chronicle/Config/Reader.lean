import Chronicle.Config.Section
import Chronicle.Config.Settings
import Chronicle.File.Tree
import Chronicle.Octets.Utf8
import Chronicle.Text.Lines
import Chronicle.Yaml.Document

/-!
# Reading settings

Settings are a YAML map of sections with a version, which is one. Before the sections are looked at,
the map must have no other keys and the right version; then all problems with the sections are
reported together. Texts are read as YAML and as patterns by readers that are given.
-/
namespace Chronicle

/-- Why there are no settings. -/
inductive ConfigFault where
  /-- The file cannot be read. -/
  | unreadable (e : FileError)
  /-- The file holds no text. -/
  | notText (fault : OctetFault)
  /-- The text is not YAML. -/
  | notYaml
  /-- A scalar has the form of a value that there is not. -/
  | noValue (fault : YamlFault)
  | notMap
  /-- There are other keys, given in order. -/
  | unknownKeys (keys : List Yaml.Value)
  /-- There are other keys, of kinds that have no common order. -/
  | unorderedKeys
  /-- A key or the version, which would be shown, holds an integer with too many digits for that. -/
  | unwritable
  | noVersion
  | unsupportedVersion (version : Yaml.Value)
  | invalid (problems : List SettingProblem)
  /-- A pattern repeats something more often than can be counted. -/
  | hugeRepeat
  deriving Repr, Inhabited

/-- Whether a fault is told as one of the settings. Any other fault is one of the file, or of
something that happens while the settings are read. -/
def ConfigFault.isRejection : ConfigFault → Bool
  | .notYaml | .notMap | .unknownKeys _ | .noVersion | .unsupportedVersion _ | .invalid _ => true
  | .unreadable _ | .notText _ | .noValue _ | .unorderedKeys | .unwritable | .hugeRepeat => false

/-- The text of a fault. -/
def ConfigFault.message : ConfigFault → String
  | .unreadable e => e.message
  | .notText fault => fault.message "utf-8"
  | .notYaml => "Config is not valid YAML"
  | .noValue fault => fault.message
  | .notMap => "Config root must be a mapping"
  | .unknownKeys keys => "Unknown top-level keys: " ++ (Yaml.Value.list keys).inner
  | .unorderedKeys => "unknown keys have no common order"
  | .unwritable =>
    "Exceeds the limit (" ++ String.ofList (Decimal.digits Decimal.maxDigits)
      ++ " digits) for integer string conversion; "
      ++ "use sys.set_int_max_str_digits() to increase the limit"
  | .noVersion => "Missing required top-level key: version"
  | .unsupportedVersion version => "Unsupported config version: " ++ version.shown
  | .invalid _ => "Invalid config"
  | .hugeRepeat => PatternFault.hugeRepeat.message []

namespace Config

/-- What the reading of settings relies on: a reader of YAML texts and one of patterns. -/
structure Readers where
  yaml : List Char → Except YamlFault Yaml.Value
  pattern : String → Except PatternFault Pattern
  /-- A pattern keeps the text that it is read from. -/
  text_pattern : ∀ {s : String} {p : Pattern}, pattern s = .ok p → p.text = s
  /-- The pattern of settings that give none is that of its text. -/
  pattern_default :
    pattern ({} : RuntimeSettings).afterAll.text = .ok ({} : RuntimeSettings).afterAll

/-- The readers of YAML 1.1 and of patterns, in which characters have the names of a table. -/
def Readers.standard (names : Text.CharacterNames) : Readers where
  yaml := Yaml.ofText
  pattern := Pattern.ofText names
  text_pattern := Pattern.text_ofText
  pattern_default := RuntimeSettings.ofText_afterAll names

/-! ### Keys in order -/

/-- The kinds of key that have an order. -/
inductive KeyKind where
  | number | text | octets | date | moment | localMoment
  deriving DecidableEq, Repr, Inhabited

/-- The kind of a key, if keys of its kind have an order. -/
def keyKind? : Yaml.Value → Option KeyKind
  | .bool _ | .int _ | .float _ => some .number
  | .text _ => some .text
  | .octets _ => some .octets
  | .date _ => some .date
  | .moment _ none => some .localMoment
  | .moment _ (some _) => some .moment
  | .null | .list _ | .pairs _ | .map _ | .set _ => none

/-- A key as a fraction on the line of its kind. An infinite one has the denominator zero, and an
undefined one has no place. -/
def keyPosition? : Yaml.Value → Option (Int × Nat)
  | .bool b => some (if b then 1 else 0, 1)
  | .int i => some (i, 1)
  | .float (.finite negative m e) =>
    let (n, d) := Binary64.scaled 2 m e
    some (if negative then -(n : Int) else n, d)
  | .float (.infinity negative) => some (if negative then -1 else 1, 0)
  | .date d => some (d.days, 1)
  | .moment wall none => some (wall, 1)
  | .moment wall (some zone) => some (wall - zone * 1000000, 1)
  | _ => none

/-- Whether one key comes before another, or in its place. -/
def keyLe (a b : Yaml.Value) : Bool :=
  match a, b with
  | .text s, .text t => s ≤ t
  | .octets s, .octets t => !t.lex s fun m n => m < n
  | _, _ =>
    match keyPosition? a, keyPosition? b with
    | some (n, d), some (m, e) => n * e < m * d || (n * e == m * d && n ≤ m)
    | _, _ => true

/-- Whether two keys have an order. -/
def isComparable (a b : Yaml.Value) : Bool :=
  (keyKind? a).isSome && keyKind? a == keyKind? b

/-- The keys in order, if they have one. A single key always has. -/
def sortedKeys? (keys : List Yaml.Value) : Option (List Yaml.Value) :=
  match keys with
  | [] | [_] => some keys
  | k :: rest => if rest.all (isComparable k) then some (keys.mergeSort keyLe) else none

/-! ### Sections -/

/-- The words of a rule for patterns that a text breaks. -/
def patternRule (s : String) (f : PatternFault) : String :=
  match f with
  | .mixedAlphabets | .longNumber _ => f.message s.toList
  | _ => "after_all_pattern is not a valid regex: " ++ f.message s.toList

/-- A pattern. -/
def pattern (readers : Readers) (v : Schema.Scalar) : Except Schema.Fault Pattern := do
  let s ← Schema.text v
  (readers.pattern s).mapError fun f => .rule (patternRule s f)

/-- A text that is not empty. -/
def someText (v : Schema.Scalar) : Except Schema.Fault String := do
  let s ← Schema.text v
  if s = "" then .error .emptyText else .ok s

/-- The entries of a section, or the problem that it is no map. -/
def entriesOf (heading record : String) : Yaml.Value → Except SettingProblem Section.Entries
  | .map es => .ok es
  | _ => .error ⟨[.name heading], .notRecord record⟩

/-- The section under a heading, which may be missing. -/
def sectionOf {α : Type} (heading record : String) (root : Section.Entries) (absent : α)
    (read : Section.Entries → Checked α) : Checked α :=
  match Yaml.Value.entry? root heading with
  | none => ⟨absent, []⟩
  | some v =>
    match entriesOf heading record v with
    | .ok es => read es
    | .error p => ⟨absent, [p]⟩

/-- The settings for the replay. -/
def readRuntime (readers : Readers) (es : Section.Entries) : Checked RuntimeSettings :=
  let absent : RuntimeSettings := {}
  let context :=
    Section.field "runtime" es ["default_context_id"] absent.defaultContext someText
  let afterAll :=
    Section.field "runtime" es ["after_all_pattern"] absent.afterAll (pattern readers)
  let extras := Section.extras "runtime" es [["default_context_id"], ["after_all_pattern"]]
  ⟨⟨context.value, afterAll.value⟩, context.problems ++ afterAll.problems ++ extras⟩

/-- The names of the field for the directory of the report. -/
def directoryNames : List String :=
  ["results_dir", "resultsDir", "output_dir", "outputDir"]

/-- The settings for the report. -/
def readBackend (es : Section.Entries) : Checked BackendSettings :=
  let absent : BackendSettings := {}
  let kind := Section.field "backend" es ["kind"] absent.kind (Schema.word BackendKind)
  let directory := Section.field "backend" es directoryNames absent.directory Schema.text
  let extras := Section.extras "backend" es [["kind"], directoryNames]
  ⟨⟨kind.value, directory.value⟩, kind.problems ++ directory.problems ++ extras⟩

/-- The problem that a log which goes to a file has no path. -/
def logProblems (l : LoggingSettings) : List SettingProblem :=
  if l.sink = .file ∧ l.path.getD "" = "" then
    [⟨[.name "logging"], .rule "logging.path is required when sink is 'jsonl'"⟩]
  else []

/-- The settings for the log. Where all fields fit, a log that goes to a file must have a path. -/
def readLogging (es : Section.Entries) : Checked LoggingSettings :=
  let absent : LoggingSettings := {}
  let sink := Section.field "logging" es ["sink"] absent.sink (Schema.word SinkKind)
  let path := Section.field "logging" es ["path"] absent.path Schema.text?
  let level := Section.field "logging" es ["level"] absent.level (Schema.word LogLevel)
  let extras := Section.extras "logging" es [["sink"], ["path"], ["level"]]
  let found : LoggingSettings := ⟨sink.value, path.value, level.value⟩
  let problems := sink.problems ++ path.problems ++ level.problems ++ extras
  ⟨found, if problems.isEmpty then logProblems found else problems⟩

/-- An entry of the environment. -/
def readVariable (e : Yaml.Value × Yaml.Value) : Checked (String × String) :=
  let place := [.name "environment", e.1.placeKey]
  match Schema.text e.1.scalar, Schema.text e.2.scalar with
  | .ok k, .ok v => ⟨(k, v), []⟩
  | .ok _, .error g => ⟨("", ""), [⟨place, g⟩]⟩
  | .error f, .ok _ => ⟨("", ""), [⟨place ++ [.name "[key]"], f⟩]⟩
  | .error f, .error g => ⟨("", ""), [⟨place ++ [.name "[key]"], f⟩, ⟨place, g⟩]⟩

/-- Sets the value of a variable: in its place when there is one, and else at the end. -/
def setVariable (known : List (String × String)) (e : String × String) : List (String × String) :=
  match known with
  | [] => [e]
  | d :: rest => if d.1 = e.1 then e :: rest else d :: setVariable rest e

/-- The environment. A text and octets may be the same key there. -/
def readEnvironment (root : Section.Entries) : Checked (List (String × String)) :=
  match Yaml.Value.entry? root "environment" with
  | none => ⟨[], []⟩
  | some (.map es) =>
    let found := es.map readVariable
    ⟨(found.map Checked.value).foldl setVariable [], found.flatMap Checked.problems⟩
  | some _ => ⟨[], [⟨[.name "environment"], .notDictionary⟩]⟩

/-- The text of the pattern in a map of sections. -/
def patternText? (root : Section.Entries) : Option String :=
  match Yaml.Value.entry? root "runtime" with
  | some (.map es) =>
    (Yaml.Value.entry? es "after_all_pattern").bind fun v => (Schema.text v.scalar).toOption
  | _ => none

/-- Whether the pattern of a map repeats something more often than can be counted. -/
def hasHugeRepeat (readers : Readers) (root : Section.Entries) : Bool :=
  (patternText? root).any fun s =>
    match readers.pattern s with
    | .error .hugeRepeat => true
    | _ => false

/-- The settings in a map of sections. -/
def ofSections (readers : Readers) (root : Section.Entries) : Except ConfigFault Config :=
  let runtime := sectionOf "runtime" "RuntimeConfig" root {} (readRuntime readers)
  let backend := sectionOf "backend" "BackendConfig" root {} readBackend
  let logging := sectionOf "logging" "LoggingConfig" root {} readLogging
  let environment := readEnvironment root
  let problems :=
    runtime.problems ++ backend.problems ++ logging.problems ++ environment.problems
  if hasHugeRepeat readers root then .error .hugeRepeat
  else if problems.isEmpty then
    .ok ⟨runtime.value, backend.value, logging.value, environment.value⟩
  else .error (.invalid problems)

/-! ### Whole files -/

/-- The keys that settings have. -/
def headings : List String :=
  ["version", "runtime", "backend", "logging", "environment"]

/-- Whether a key belongs to settings. -/
def isHeading : Yaml.Value → Bool
  | .text s => headings.contains s
  | _ => false

/-- The settings that a YAML value gives. -/
def ofValue (readers : Readers) (v : Yaml.Value) : Except ConfigFault Config :=
  match v with
  | .map root =>
    match (root.map (·.1)).filter (!isHeading ·) with
    | [] =>
      match Yaml.Value.entry? root "version" with
      | none => .error .noVersion
      | some version =>
        if version.integer? = some 1 then ofSections readers root
        else if version.isWritable then .error (.unsupportedVersion version)
        else .error .unwritable
    | unknown =>
      match sortedKeys? unknown with
      | some keys =>
        if keys.all Yaml.Value.isWritable then .error (.unknownKeys keys) else .error .unwritable
      | none => .error .unorderedKeys
  | _ => .error .notMap

/-- The settings that a text gives. -/
def ofText (readers : Readers) (text : List Char) : Except ConfigFault Config :=
  match readers.yaml (Text.unifyLineEnds text) with
  | .ok v => ofValue readers v
  | .error .malformed => .error .notYaml
  | .error f => .error (.noValue f)

/-- The settings that octets give. -/
def ofBytes (readers : Readers) (content : Bytes) : Except ConfigFault Config :=
  match Utf8.decode content with
  | .ok text => ofText readers text
  | .error fault => .error (.notText fault)

/-- The settings in a file. -/
def load (readers : Readers) (disk : FileTree) (path : Path) : Except ConfigFault Config :=
  match disk.readPath path with
  | .ok content => ofBytes readers content
  | .error o => .error (.unreadable ⟨o, path⟩)

end Config

end Chronicle
