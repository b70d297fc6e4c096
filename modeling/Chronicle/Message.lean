import Chronicle.Vocabulary

/-!
# Lifecycle messages

A test run is told as a list of messages: suites, tests, hooks and steps start and end, and a test
collects labels, parameters and attachments. `Message` has one constructor per event that the run
itself can go through and one, `entry`, for everything that happens inside a test.

Names must not be empty and times must not be negative. `Message.defect?` finds the first rule that
a message breaks; `Message.checked` lets only sound messages through.
-/
namespace Chronicle

/-- Octets, as attachments and files hold them. -/
abbrev Bytes := List UInt8

/-! ### Words of the domain -/

/-- How a test, a hook or a step ended. -/
inductive Status where
  | passed | failed | broken | skipped | unknown
  deriving DecidableEq, Repr, Inhabited

instance : Vocabulary Status where
  all := [.passed, .failed, .broken, .skipped, .unknown]
  word
    | .passed => "passed"
    | .failed => "failed"
    | .broken => "broken"
    | .skipped => "skipped"
    | .unknown => "unknown"
  find_word a := by cases a <;> rfl

/-- How far a test, a hook or a step has come. -/
inductive Stage where
  | scheduled | running | finished | pending | interrupted
  deriving DecidableEq, Repr, Inhabited

instance : Vocabulary Stage where
  all := [.scheduled, .running, .finished, .pending, .interrupted]
  word
    | .scheduled => "scheduled"
    | .running => "running"
    | .finished => "finished"
    | .pending => "pending"
    | .interrupted => "interrupted"
  find_word a := by cases a <;> rfl

/-- Whether a hook prepares or cleans up. -/
inductive HookKind where
  | before | after
  deriving DecidableEq, Repr, Inhabited

instance : Vocabulary HookKind where
  all := [.before, .after]
  word
    | .before => "before"
    | .after => "after"
  find_word a := by cases a <;> rfl

/-- The label names that report viewers understand. -/
inductive LabelName where
  | feature | suite | parentSuite | subSuite | package | thread | language | framework | tag
  deriving DecidableEq, Repr, Inhabited

instance : Vocabulary LabelName where
  all := [.feature, .suite, .parentSuite, .subSuite, .package, .thread, .language, .framework, .tag]
  word
    | .feature => "feature"
    | .suite => "suite"
    | .parentSuite => "parentSuite"
    | .subSuite => "subSuite"
    | .package => "package"
    | .thread => "thread"
    | .language => "language"
    | .framework => "framework"
    | .tag => "tag"
  find_word a := by cases a <;> rfl

/-- What went wrong, in words and as a trace; either part may be missing. -/
structure StatusDetails where
  message : Option String := none
  trace : Option String := none
  deriving DecidableEq, Repr, Inhabited

/-- A label of a test. -/
structure Label where
  name : String
  value : String
  deriving DecidableEq, Repr, Inhabited

/-- A parameter that a test ran with. -/
structure Parameter where
  name : String
  value : String
  deriving DecidableEq, Repr, Inhabited

/-- The label with a well-known name. -/
def LabelName.label (n : LabelName) (value : String) : Label :=
  ⟨Vocabulary.word n, value⟩

/-! ### Messages -/

/-- A file that a test leaves behind. The content is raw octets; `encoding` names how the octets
are written as text in an event record. -/
structure Attachment where
  name : String
  content : Bytes
  contentType : String
  encoding : String := "base64"
  deriving DecidableEq, Repr, Inhabited

/-- What happens inside a test. -/
inductive TestEntry where
  | stepStart (name : String) (start : Int)
  | stepStop (status : Status) (stop : Int) (details : Option StatusDetails)
  | metadata (labels : List Label) (parameters : List Parameter)
  | attachment (file : Attachment)
  deriving DecidableEq, Repr, Inhabited

/-- How a test ended. -/
structure TestEnding where
  status : Status
  stop : Int
  stage : Option Stage := none
  duration : Option Int := none
  details : Option StatusDetails := none
  deriving DecidableEq, Repr, Inhabited

/-- How a hook ended. -/
structure HookEnding where
  status : Status
  stop : Int
  duration : Option Int := none
  details : Option StatusDetails := none
  deriving DecidableEq, Repr, Inhabited

/-- One event in the life of a test run. -/
inductive Message where
  | suiteStart (name : String) (isFeature : Bool)
  | suiteEnd
  | testStart (name : String) (start : Int)
  | testInfo (fullName : String)
  | testEnd (ending : TestEnding)
  | hookStart (name : String) (kind : HookKind) (start : Int)
  | hookEnd (ending : HookEnding)
  | entry (e : TestEntry)
  deriving DecidableEq, Repr, Inhabited

/-- The names of the kinds of message. -/
inductive MessageKind where
  | suiteStart | suiteEnd | testStart | testInfo | testEnd | hookStart | hookEnd
  | stepStart | stepStop | metadata | attachment
  deriving DecidableEq, Repr, Inhabited

instance : Vocabulary MessageKind where
  all := [.suiteStart, .suiteEnd, .testStart, .testInfo, .testEnd, .hookStart, .hookEnd,
    .stepStart, .stepStop, .metadata, .attachment]
  word
    | .suiteStart => "suite_start"
    | .suiteEnd => "suite_end"
    | .testStart => "test_start"
    | .testInfo => "test_info"
    | .testEnd => "test_end"
    | .hookStart => "hook_start"
    | .hookEnd => "hook_end"
    | .stepStart => "step_start"
    | .stepStop => "step_stop"
    | .metadata => "metadata"
    | .attachment => "attachment"
  find_word a := by cases a <;> rfl

/-- The kind of an entry. -/
def TestEntry.kind : TestEntry → MessageKind
  | .stepStart .. => .stepStart
  | .stepStop .. => .stepStop
  | .metadata .. => .metadata
  | .attachment .. => .attachment

/-- The kind of a message. -/
def Message.kind : Message → MessageKind
  | .suiteStart .. => .suiteStart
  | .suiteEnd => .suiteEnd
  | .testStart .. => .testStart
  | .testInfo .. => .testInfo
  | .testEnd .. => .testEnd
  | .hookStart .. => .hookStart
  | .hookEnd .. => .hookEnd
  | .entry e => e.kind

/-! ### Sound messages -/

/-- The times that a message can carry. -/
inductive TimeField where
  | start | stop | duration
  deriving DecidableEq, Repr, Inhabited

/-- A time's name. -/
def TimeField.name : TimeField → String
  | .start => "start"
  | .stop => "stop"
  | .duration => "duration"

/-- A rule that a message breaks. -/
inductive Defect where
  /-- The message needs a name. -/
  | unnamed (kind : MessageKind)
  /-- A time lies before zero. -/
  | negative (kind : MessageKind) (field : TimeField)
  deriving DecidableEq, Repr, Inhabited

/-- The text of a broken rule. -/
def Defect.message : Defect → String
  | .unnamed kind => Vocabulary.word kind ++ " requires a non-empty name"
  | .negative kind field =>
    Vocabulary.word kind ++ "." ++ field.name ++ " must be non-negative"

/-- The defect of a message of this kind with this name. -/
def Defect.ofName (kind : MessageKind) (name : String) : Option Defect :=
  if name = "" then some (.unnamed kind) else none

/-- The defect of a message of this kind with this time. -/
def Defect.ofTime (kind : MessageKind) (field : TimeField) (time : Int) : Option Defect :=
  if time < 0 then some (.negative kind field) else none

/-- The defect of a message of this kind with a duration that may be missing. -/
def Defect.ofDuration (kind : MessageKind) : Option Int → Option Defect
  | none => none
  | some d => Defect.ofTime kind .duration d

/-- The first rule that an entry breaks. -/
def TestEntry.defect? (e : TestEntry) : Option Defect :=
  match e with
  | .stepStart name start => Defect.ofName e.kind name <|> Defect.ofTime e.kind .start start
  | .stepStop _ stop _ => Defect.ofTime e.kind .stop stop
  | .metadata .. => none
  | .attachment file => Defect.ofName e.kind file.name

/-- The first rule that a message breaks: its name first, then its times. -/
def Message.defect? (m : Message) : Option Defect :=
  match m with
  | .suiteStart name _ => Defect.ofName m.kind name
  | .suiteEnd => none
  | .testStart name start => Defect.ofName m.kind name <|> Defect.ofTime m.kind .start start
  | .testInfo _ => none
  | .testEnd e => Defect.ofTime m.kind .stop e.stop <|> Defect.ofDuration m.kind e.duration
  | .hookStart name _ start => Defect.ofName m.kind name <|> Defect.ofTime m.kind .start start
  | .hookEnd e => Defect.ofTime m.kind .stop e.stop <|> Defect.ofDuration m.kind e.duration
  | .entry e => e.defect?

/-- A message that breaks no rule. -/
def Message.Sound (m : Message) : Prop :=
  m.defect? = none

instance (m : Message) : Decidable m.Sound :=
  inferInstanceAs (Decidable (m.defect? = none))

/-- The message itself, if it is sound. -/
def Message.checked (m : Message) : Except Defect Message :=
  match m.defect? with
  | some d => .error d
  | none => .ok m

theorem Message.checked_eq_ok_iff {m n : Message} : m.checked = .ok n ↔ m.Sound ∧ n = m := by
  unfold Message.checked Message.Sound
  cases m.defect? <;> simp [eq_comm]

end Chronicle
