import Chronicle.Report.Record

/-!
# Open tests

An open test is its record so far and the chain of its open steps, the innermost first. A step joins
the step around it, or the test, when it is closed; `OpenTest.snapshot` is the record in which all
open steps stand where they belong.
-/
namespace Chronicle

namespace StepResult

/-- The step with another step at the end of it. -/
def adopt (outer inner : StepResult) : StepResult :=
  { outer with steps := outer.steps ++ [inner] }

/-- The step with an attachment. -/
def attach (s : StepResult) (ref : AttachmentRef) : StepResult :=
  { s with attachments := s.attachments ++ [ref] }

/-- The step as it ends. -/
def closed (s : StepResult) (status : Status) (stop : Int) (details : Option StatusDetails) :
    StepResult :=
  { s with
    status := some status
    stop := some stop
    details := details <|> s.details
    stage := .finished }

/-- A chain of steps, the innermost first, as the outermost of them with the others inside it. -/
def nest (inner : StepResult) : List StepResult → StepResult
  | [] => inner
  | outer :: rest => nest (outer.adopt inner) rest

end StepResult

/-- A test that has not been written. -/
structure OpenTest where
  /-- The record, without the open steps. -/
  result : TestResult
  /-- The open steps, the innermost first. -/
  openSteps : List StepResult := []
  deriving BEq, Repr, Inhabited

namespace OpenTest

/-- The record with a step at the end of it. -/
def adopt (r : TestResult) (s : StepResult) : TestResult :=
  { r with steps := r.steps ++ [s] }

/-- The record with the open steps in their places. -/
def snapshot (t : OpenTest) : TestResult :=
  match t.openSteps with
  | [] => t.result
  | inner :: rest => adopt t.result (inner.nest rest)

/-- Opens a step inside the innermost open one. -/
def openStep (t : OpenTest) (name : String) (start : Int) : OpenTest :=
  { t with openSteps := { name := name, start := start } :: t.openSteps }

/-- Closes the innermost open step, if there is one. -/
def closeStep (t : OpenTest) (status : Status) (stop : Int) (details : Option StatusDetails) :
    OpenTest :=
  match t.openSteps with
  | [] => t
  | [s] => ⟨adopt t.result (s.closed status stop details), []⟩
  | s :: outer :: rest => ⟨t.result, outer.adopt (s.closed status stop details) :: rest⟩

/-- Adds an attachment to the innermost open step, or to the test when no step is open. -/
def attach (t : OpenTest) (ref : AttachmentRef) : OpenTest :=
  match t.openSteps with
  | [] => { t with result := { t.result with attachments := t.result.attachments ++ [ref] } }
  | s :: rest => { t with openSteps := s.attach ref :: rest }

/-- Adds labels and parameters. -/
def describe (t : OpenTest) (labels : List Label) (parameters : List Parameter) : OpenTest :=
  { t with
    result := { t.result with
      labels := t.result.labels ++ labels
      parameters := t.result.parameters ++ parameters } }

/-- Changes the record. The change is handed the record without its open steps, which join it when
they are closed. So it stands for the changes of one record that leave its steps alone and do not
look at them; to name a test and to end it are such changes. -/
def update (t : OpenTest) (f : TestResult → TestResult) : OpenTest :=
  { t with result := f t.result }

end OpenTest

end Chronicle
