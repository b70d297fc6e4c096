import Chronicle.Message
import Chronicle.Report.Handle

/-!
# Records of a report

What a report says about tests, the steps and attachments in them, fixtures, and the scopes that
hold both. A record without a status has not ended.
-/
namespace Chronicle

/-- An attachment as a record refers to it: under the name of the file that holds its content. -/
structure AttachmentRef where
  name : String
  source : String
  contentType : String
  deriving DecidableEq, Repr, Inhabited

/-- A step of a test, with the steps inside it. -/
structure StepResult where
  name : String
  start : Int
  stop : Option Int := none
  status : Option Status := none
  details : Option StatusDetails := none
  stage : Stage := .running
  steps : List StepResult := []
  attachments : List AttachmentRef := []
  deriving BEq, Repr, Inhabited

/-- A test. -/
structure TestResult where
  handle : Handle
  name : String
  start : Int
  fullName : Option String := none
  stop : Option Int := none
  duration : Option Int := none
  status : Option Status := none
  details : Option StatusDetails := none
  stage : Stage := .running
  labels : List Label := []
  parameters : List Parameter := []
  steps : List StepResult := []
  attachments : List AttachmentRef := []
  deriving BEq, Repr, Inhabited

/-- A hook that ran for a scope. -/
structure FixtureResult where
  handle : Handle
  name : String
  kind : HookKind
  start : Int
  stop : Option Int := none
  duration : Option Int := none
  status : Option Status := none
  details : Option StatusDetails := none
  stage : Stage := .running
  deriving DecidableEq, Repr, Inhabited

/-- A group of tests with the fixtures that ran for it. -/
structure ScopeResult where
  handle : Handle
  children : List Handle := []
  befores : List FixtureResult := []
  afters : List FixtureResult := []
  deriving DecidableEq, Repr, Inhabited

/-- The duration of something that stops: the one that is given, or else the time since the start,
which is not less than zero. Without a stop time a given duration still counts. -/
def stoppedDuration (start : Int) (stop duration known : Option Int) : Option Int :=
  match duration, stop with
  | some d, _ => some d
  | none, some t => some (max 0 (t - start))
  | none, none => known

/-- The stage of something that stops: only what was running is finished by that. -/
def stoppedStage (stage : Stage) : Stage :=
  if stage = .running then .finished else stage

/-- The test with the stop time and duration that are given. -/
def TestResult.stopped (r : TestResult) (stop duration : Option Int) : TestResult :=
  let stop := stop <|> r.stop
  { r with
    stop := stop
    duration := stoppedDuration r.start stop duration r.duration
    stage := stoppedStage r.stage }

/-- The fixture with the stop time and duration that are given. -/
def FixtureResult.stopped (r : FixtureResult) (stop duration : Option Int) : FixtureResult :=
  let stop := stop <|> r.stop
  { r with
    stop := stop
    duration := stoppedDuration r.start stop duration r.duration
    stage := stoppedStage r.stage }

/-- The test with the outcome of its ending. -/
def TestResult.ended (r : TestResult) (e : TestEnding) : TestResult :=
  { r with
    status := some e.status
    stage := e.stage.getD r.stage
    details := e.details <|> r.details }

/-- The fixture with the outcome of its ending. -/
def FixtureResult.ended (r : FixtureResult) (e : HookEnding) : FixtureResult :=
  { r with
    status := some e.status
    details := e.details <|> r.details }

end Chronicle
