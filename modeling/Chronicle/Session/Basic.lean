import Chronicle.Report.Handle
import Chronicle.Session.Pending

/-!
# Sessions

A session belongs to one execution context. Its log only grows; everything else in it is what
replaying the log holds open at the moment.
-/
namespace Chronicle

/-- The log of an execution context, and what is open while it is replayed. -/
structure Session where
  contextId : String
  log : List Message := []
  /-- The open scopes, the innermost first. -/
  scopes : List Handle := []
  /-- The tests that have not ended, the newest first. -/
  executables : List Handle := []
  /-- The fixtures that run, the newest first. -/
  fixtures : List Handle := []
  /-- The test that has not been written. -/
  currentTest : Option Handle := none
  /-- How many steps of it are open. -/
  openSteps : Nat := 0
  deriving DecidableEq, Repr, Inhabited

namespace Session

/-- The session with a message at the end of its log. -/
def push (s : Session) (m : Message) : Session :=
  { s with log := s.log ++ [m] }

/-- Whether nothing is open. -/
def isSettled (s : Session) : Bool :=
  s.scopes.isEmpty && s.executables.isEmpty && s.fixtures.isEmpty && s.currentTest.isNone
    && s.openSteps == 0

/-- Whether a span is pending in the log. -/
def isPending (s : Session) (span : Span) : Bool :=
  Chronicle.isPending span s.log

/-- The feature that the log has reached. -/
def currentFeature (s : Session) : Option String :=
  Chronicle.currentFeature s.log

end Session

end Chronicle
