import Chronicle.Event.Content
import Chronicle.Event.Field

/-!
# Reading events

An event record is an object `{"cid": …, "type": …, "data": …}`: which execution context reports,
what kind of message, and the message itself. `Event.ofJson` reads one. The record has no other
members; `data` may have any, and those that its kind does not know are ignored. Of several things
that are wrong the first in field order is reported.
-/
namespace Chronicle

/-- A message and the execution context that it comes from, if the record names one. -/
structure Event where
  contextId : Option String
  message : Message
  deriving DecidableEq, Repr, Inhabited

/-- Why a record is no event. -/
inductive EventError where
  /-- A field does not fit. -/
  | invalid (fault : Schema.Fault)
  /-- The text of an attachment is no content. -/
  | content (fault : Content.DecodeFault)
  /-- The message breaks a rule of its kind. -/
  | defect (defect : Defect)
  deriving DecidableEq, Repr, Inhabited

namespace EventError

/-- The text of an error. -/
def message : EventError → String
  | .invalid fault => "invalid event record: " ++ fault.message
  | .content fault => fault.message
  | .defect d => d.message

/-- Whether the error says that the record is wrong. The other errors say that reading it could not
even be tried. -/
def isRejection : EventError → Bool
  | .content .notAscii | .content .malformedName => false
  | _ => true

end EventError

namespace Event

/-- Reads a scalar. -/
def scalar {α : Type} (read : Schema.Scalar → Except Schema.Fault α) (v : Json) :
    Except Schema.Fault α :=
  read v.scalar

/-- Reads a list, item by item. -/
def list {α : Type} (read : Json → Except Schema.Fault α) : Json → Except Schema.Fault (List α)
  | .arr items => items.mapM read
  | _ => .error .notList

/-- Reads what went wrong, or nothing. -/
def details : Json → Except Schema.Fault (Option StatusDetails)
  | .null => .ok none
  | .obj ms => do
    let message ← Field.message.withDefault none (scalar Schema.text?) ms
    let trace ← Field.trace.withDefault none (scalar Schema.text?) ms
    return some ⟨message, trace⟩
  | _ => .error (.notRecord "_StatusDetailsData")

/-- Reads a pair of a name and a value. -/
def nameValue {α : Type} (make : String → String → α) : Json → Except Schema.Fault α
  | .obj ms => do
    let name ← Field.name.required (scalar Schema.text) ms
    let value ← Field.value.required (scalar Schema.text) ms
    return make name value
  | _ => .error (.notRecord "_NameValueData")

/-- The kinds of message that hold no octets, and what is read of one that does. -/
inductive Draft where
  | message (m : Message)
  /-- An attachment with its content still as a text. -/
  | attachment (name content contentType encoding : String)
  deriving DecidableEq, Repr, Inhabited

/-- Reads the data of a message of a kind. -/
def draft (ms : Members) : MessageKind → Except Schema.Fault Draft
  | .suiteStart => do
    let name ← Field.name.required (scalar Schema.text) ms
    let isFeature ← Field.isFeature.withDefault false (scalar Schema.boolean) ms
    return .message (.suiteStart name isFeature)
  | .suiteEnd => .ok (.message .suiteEnd)
  | .testStart => do
    let name ← Field.name.required (scalar Schema.text) ms
    let start ← Field.start.required (scalar Schema.integer) ms
    return .message (.testStart name start)
  | .testInfo => do
    let fullName ← Field.fullName.required (scalar Schema.text) ms
    return .message (.testInfo fullName)
  | .testEnd => do
    let status ← Field.status.required (scalar (Schema.word Status)) ms
    let stop ← Field.stop.required (scalar Schema.integer) ms
    let stage ← Field.stage.withDefault none (scalar (Schema.word? Stage)) ms
    let duration ← Field.duration.withDefault none (scalar Schema.integer?) ms
    let details ← Field.details.withDefault none details ms
    return .message (.testEnd ⟨status, stop, stage, duration, details⟩)
  | .hookStart => do
    let name ← Field.name.required (scalar Schema.text) ms
    let kind ← Field.hookKind.required (scalar (Schema.word HookKind)) ms
    let start ← Field.start.required (scalar Schema.integer) ms
    return .message (.hookStart name kind start)
  | .hookEnd => do
    let status ← Field.status.required (scalar (Schema.word Status)) ms
    let stop ← Field.stop.required (scalar Schema.integer) ms
    let duration ← Field.duration.withDefault none (scalar Schema.integer?) ms
    let details ← Field.details.withDefault none details ms
    return .message (.hookEnd ⟨status, stop, duration, details⟩)
  | .stepStart => do
    let name ← Field.name.required (scalar Schema.text) ms
    let start ← Field.start.required (scalar Schema.integer) ms
    return .message (.entry (.stepStart name start))
  | .stepStop => do
    let status ← Field.status.required (scalar (Schema.word Status)) ms
    let stop ← Field.stop.required (scalar Schema.integer) ms
    let details ← Field.details.withDefault none details ms
    return .message (.entry (.stepStop status stop details))
  | .metadata => do
    let labels ← Field.labels.withDefault [] (list (nameValue Label.mk)) ms
    let parameters ← Field.parameters.withDefault [] (list (nameValue Parameter.mk)) ms
    return .message (.entry (.metadata labels parameters))
  | .attachment => do
    let name ← Field.name.required (scalar Schema.text) ms
    let content ← Field.content.required (scalar Schema.text) ms
    let contentType ← Field.contentType.required (scalar Schema.text) ms
    let encoding ← Field.encoding.withDefault Content.base64Name (scalar Schema.text) ms
    return .attachment name content contentType encoding

/-- The message of a draft. -/
def Draft.finish : Draft → Except EventError Message
  | .message m => m.checked.mapError .defect
  | .attachment name content contentType encoding => do
    let bytes ← (Content.decode encoding content).mapError .content
    (Message.entry (.attachment ⟨name, bytes, contentType, encoding⟩)).checked.mapError .defect

/-- The keys that a record may have. -/
def recordKeys : List String :=
  [Field.contextId.key, Field.kind.key, Field.data.key]

/-- Reads the data of a record, which must be an object. -/
def dictionary : Json → Except Schema.Fault Members
  | .obj ms => .ok ms
  | _ => .error .notDictionary

/-- Reads a record: its context, its kind and its data. -/
def ofRecord : Json → Except Schema.Fault (Option String × MessageKind × Members)
  | .obj ms => do
    let contextId ← Field.contextId.withDefault none (scalar Schema.text?) ms
    let kind ← Field.kind.required (scalar (Schema.word MessageKind)) ms
    let data ← Field.data.withDefault [] dictionary ms
    if ms.all fun m => recordKeys.contains m.1 then return (contextId, kind, data)
    else throw .extra
  | _ => .error (.notRecord "_EventRecord")

/-- Reads an event. -/
def ofJson (v : Json) : Except EventError Event := do
  let (contextId, kind, data) ← (ofRecord v).mapError .invalid
  let found ← (draft data kind).mapError .invalid
  return ⟨contextId, ← found.finish⟩

end Event

end Chronicle
