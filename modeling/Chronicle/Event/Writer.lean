import Chronicle.Event.Reader

/-!
# Writing events

`Event.toJson` writes an event as the record that reads back as it. Fields are written under their
first names, and a field without a value is left out; the two parts of what went wrong are always
both there.
-/
namespace Chronicle.Event

/-- The member of a field. -/
def member (f : Field) (v : Json) : String × Json :=
  (f.key, v)

/-- The member of a field that may have no value. -/
def member? (f : Field) (v : Option Json) : List (String × Json) :=
  v.toList.map (member f)

/-- A word of a vocabulary as a value. -/
def wordValue {α : Type} [Vocabulary α] (a : α) : Json :=
  .str (Vocabulary.word a)

/-- What went wrong, as a value. -/
def detailsValue (d : StatusDetails) : Json :=
  .obj [member Field.message (.ofText? d.message), member Field.trace (.ofText? d.trace)]

/-- A name and a value, as a value. -/
def pairValue (name value : String) : Json :=
  .obj [member Field.name (.str name), member Field.value (.str value)]

/-- The data of an entry. -/
def entryData : TestEntry → Except Content.EncodeFault Members
  | .stepStart name start =>
    .ok [member Field.name (.str name), member Field.start (.int start)]
  | .stepStop status stop details =>
    .ok ([member Field.status (wordValue status), member Field.stop (.int stop)]
      ++ member? Field.details (details.map detailsValue))
  | .metadata labels parameters =>
    .ok [member Field.labels (.arr (labels.map fun l => pairValue l.name l.value)),
      member Field.parameters (.arr (parameters.map fun p => pairValue p.name p.value))]
  | .attachment file => do
    let content ← Content.encode file.encoding file.content
    return [member Field.name (.str file.name), member Field.content (.str content),
      member Field.contentType (.str file.contentType), member Field.encoding (.str file.encoding)]

/-- The data of a message. -/
def messageData : Message → Except Content.EncodeFault Members
  | .suiteStart name isFeature =>
    .ok [member Field.name (.str name), member Field.isFeature (.bool isFeature)]
  | .suiteEnd => .ok []
  | .testStart name start =>
    .ok [member Field.name (.str name), member Field.start (.int start)]
  | .testInfo fullName => .ok [member Field.fullName (.str fullName)]
  | .testEnd e =>
    .ok ([member Field.status (wordValue e.status), member Field.stop (.int e.stop)]
      ++ member? Field.stage (e.stage.map wordValue)
      ++ member? Field.duration (e.duration.map .int)
      ++ member? Field.details (e.details.map detailsValue))
  | .hookStart name kind start =>
    .ok [member Field.name (.str name), member Field.hookKind (wordValue kind),
      member Field.start (.int start)]
  | .hookEnd e =>
    .ok ([member Field.status (wordValue e.status), member Field.stop (.int e.stop)]
      ++ member? Field.duration (e.duration.map .int)
      ++ member? Field.details (e.details.map detailsValue))
  | .entry e => entryData e

/-- The record of an event. -/
def toJson (e : Event) : Except Content.EncodeFault Json := do
  let data ← messageData e.message
  return .obj ([member Field.kind (wordValue e.message.kind), member Field.data (.obj data)]
    ++ member? Field.contextId (e.contextId.map .str))

end Chronicle.Event
