import Chronicle.Json.Printer
import Chronicle.Octets.Utf8
import Chronicle.Report.Record

/-!
# Records as files

The text of a record in a results directory: one JSON object, its members in the order of the
record, in UTF-8. What is not known is left out, so a record without a status shows none. Details of
which neither part is known are an empty object, which is not the same as no details.
-/
namespace Chronicle

/-- The text of a value, in octets. -/
def Json.octets (v : Json) : Bytes :=
  Utf8.encode v.print

namespace Rendering

/-- A member for what is known. -/
def known {α : Type} (key : String) (make : α → Json) (v : Option α) : List (String × Json) :=
  v.toList.map fun a => (key, make a)

/-- A word of a vocabulary. -/
def wordJson {α : Type} [Vocabulary α] (a : α) : Json :=
  .str (Vocabulary.word a)

/-- What went wrong. -/
def detailsJson (d : StatusDetails) : Json :=
  .obj (known "message" .str d.message ++ known "trace" .str d.trace)

/-- A name and a value. -/
def pairJson (name value : String) : Json :=
  .obj [("name", .str name), ("value", .str value)]

/-- An attachment. -/
def attachmentJson (a : AttachmentRef) : Json :=
  .obj [("name", .str a.name), ("source", .str a.source), ("type", .str a.contentType)]

/-- A handle. -/
def handleJson (h : Handle) : Json :=
  .str h.name

mutual

/-- A step. -/
def stepJson : StepResult → Json
  | ⟨name, start, stop, status, details, stage, steps, attachments⟩ =>
    .obj ([("name", .str name), ("start", .int start)] ++ known "stop" .int stop
      ++ known "status" wordJson status ++ known "statusDetails" detailsJson details
      ++ [("stage", wordJson stage), ("steps", .arr (stepsJson steps)),
        ("attachments", .arr (attachments.map attachmentJson))])

/-- Steps in a row. -/
def stepsJson : List StepResult → List Json
  | [] => []
  | s :: rest => stepJson s :: stepsJson rest

end

/-- A test. -/
def testJson (r : TestResult) : Json :=
  .obj ([("uuid", handleJson r.handle), ("name", .str r.name), ("start", .int r.start)]
    ++ known "fullName" .str r.fullName ++ known "stop" .int r.stop
    ++ known "duration" .int r.duration ++ known "status" wordJson r.status
    ++ known "statusDetails" detailsJson r.details
    ++ [("stage", wordJson r.stage),
      ("labels", .arr (r.labels.map fun l => pairJson l.name l.value)),
      ("parameters", .arr (r.parameters.map fun p => pairJson p.name p.value)),
      ("steps", .arr (stepsJson r.steps)),
      ("attachments", .arr (r.attachments.map attachmentJson))])

/-- A fixture. -/
def fixtureJson (r : FixtureResult) : Json :=
  .obj ([("uuid", handleJson r.handle), ("name", .str r.name), ("hookKind", wordJson r.kind),
      ("start", .int r.start)]
    ++ known "stop" .int r.stop ++ known "duration" .int r.duration
    ++ known "status" wordJson r.status ++ known "statusDetails" detailsJson r.details
    ++ [("stage", wordJson r.stage)])

/-- A scope. -/
def scopeJson (r : ScopeResult) : Json :=
  .obj [("uuid", handleJson r.handle), ("children", .arr (r.children.map handleJson)),
    ("befores", .arr (r.befores.map fixtureJson)), ("afters", .arr (r.afters.map fixtureJson))]

end Rendering

end Chronicle
