import Chronicle.Json.Printer
import Chronicle.Log.Note
import Chronicle.Time.Timestamp

/-!
# Log messages

A log message is a line of JSON: its level, its words, when it was written in universal time, and
further fields in order.
-/
namespace Chronicle

/-- A log message. -/
structure LogMessage where
  level : LogLevel
  text : String
  timestamp : Timestamp
  fields : List (String × Json) := []
  deriving Repr, BEq, Inhabited

/-- What is wrong with a log message. -/
inductive LogError where
  /-- The level or the text is empty. -/
  | incomplete
  /-- There is no such level. -/
  | unknownLevel
  /-- The calendar does not have the moment in universal time. -/
  | outOfRange
  deriving DecidableEq, Repr, Inhabited

/-- The levels as a message lists them. -/
def LogLevel.listing : String :=
  "(" ++ ", ".intercalate ((Vocabulary.words LogLevel).map fun w => "'" ++ w ++ "'") ++ ")"

/-- The text of an error. -/
def LogError.message : LogError → String
  | .incomplete => "LogMessage requires non-empty level/message"
  | .unknownLevel => "LogMessage level must be one of " ++ LogLevel.listing
  | .outOfRange => "date value out of range"

namespace LogMessage

/-- The message with a level that is given as a word. -/
def create (level text : String) (timestamp : Timestamp) (fields : List (String × Json)) :
    Except LogError LogMessage :=
  if level = "" ∨ text = "" then .error .incomplete
  else
    match Vocabulary.ofWord? level with
    | some level => .ok ⟨level, text, timestamp, fields⟩
    | none => .error .unknownLevel

/-- The message of a note. -/
def ofNote (timestamp : Timestamp) (n : Note) : LogMessage :=
  ⟨n.remark.level, n.remark.text, timestamp, n.fields⟩

/-- The message as a value. -/
def toJson? (m : LogMessage) : Option Json := do
  let u ← m.timestamp.utc?
  return .obj [("level", .str (Vocabulary.word m.level)), ("message", .str m.text),
    ("timestamp", .str (String.ofList (Timestamp.utcText u))), ("fields", .obj m.fields)]

/-- The line of a message. -/
def line (m : LogMessage) : Except LogError (List Char) :=
  match m.toJson? with
  | some v => .ok (v.print ++ ['\n'])
  | none => .error .outOfRange

end LogMessage

end Chronicle
