import Chronicle.Json.Value
import Chronicle.Log.Level
import Chronicle.Message

/-!
# Notes taken while replaying

What a replay remarks about the log that it reads, and the log message that each remark becomes.
-/
namespace Chronicle

/-- Why a test is written before its ending has been read. -/
inductive Finalization where
  | suiteStart | testStart | endOfLog | lastMessage | afterAllHook
  deriving DecidableEq, Repr, Inhabited

instance : Vocabulary Finalization where
  all := [.suiteStart, .testStart, .endOfLog, .lastMessage, .afterAllHook]
  word
    | .suiteStart => "suite_start"
    | .testStart => "test_start"
    | .endOfLog => "end_of_log"
    | .lastMessage => "last_message"
    | .afterAllHook => "after_all_hook"
  find_word a := by cases a <;> rfl

/-- A remark. -/
inductive Remark where
  /-- A fixture was stopped because the log had ended. -/
  | fixtureStopped
  /-- A log of this many messages has been replayed. -/
  | replayFinished (messages : Nat)
  /-- A test was written that had not ended. -/
  | testFinalized (reason : Finalization)
  /-- A step was closed because its test ended with this status. -/
  | stepClosed (status : Status)
  /-- The report wanted no fixture for the hook of this name. -/
  | fixtureDeclined (name : String)
  /-- A message of this kind came while no test was open. -/
  | messageDropped (kind : MessageKind)
  /-- A session with this many messages has been drained. -/
  | sessionDrained (messages : Nat)
  deriving DecidableEq, Repr, Inhabited

/-- A remark about an execution context. -/
structure Note where
  contextId : String
  remark : Remark
  deriving DecidableEq, Repr, Inhabited

namespace Remark

/-- How much a remark matters. -/
def level : Remark → LogLevel
  | .replayFinished _ | .sessionDrained _ => .info
  | _ => .debug

/-- The words of a remark. -/
def text : Remark → String
  | .fixtureStopped => "fixture stopped without hook_end"
  | .replayFinished _ => "replay finished"
  | .testFinalized _ => "test finalized without test_end"
  | .stepClosed _ => "step force-closed"
  | .fixtureDeclined _ => "fixture declined by backend"
  | .messageDropped _ => "message dropped without open test"
  | .sessionDrained _ => "session drained"

/-- What a remark says beside its words. -/
def fields : Remark → List (String × Json)
  | .fixtureStopped => []
  | .replayFinished n | .sessionDrained n => [("messages", .int n)]
  | .testFinalized reason => [("reason", .str (Vocabulary.word reason))]
  | .stepClosed status => [("status", .str (Vocabulary.word status))]
  | .fixtureDeclined name => [("name", .str name)]
  | .messageDropped kind => [("kind", .str (Vocabulary.word kind))]

end Remark

/-- What a note says beside its words: the context first. -/
def Note.fields (n : Note) : List (String × Json) :=
  ("context_id", .str n.contextId) :: n.remark.fields

end Chronicle
