import Chronicle.Report.Reporter
import Chronicle.Session.Basic

/-!
# Replaying a log

`Machine.replay` turns the log of a session into calls of a reporter, message by message. What
starts a suite or a test first finalizes the test that is open: its own scope is written, then the
test. Nothing stays open once the log has been read. A call that fails ends the replay at once; the
session then still says what was open.
-/
namespace Chronicle

/-- What a replay works on: the session, and the state of the reporter. -/
structure Pass (σ : Type) where
  session : Session
  world : σ
  deriving Repr, Inhabited

/-- A step of a replay. -/
abbrev Replay (σ ε : Type) := EStateM ε (Pass σ)

/-- Replays logs into a reporter. -/
structure Machine (σ ε : Type) where
  reporter : Reporter σ ε
  /-- Whether a hook of this name runs after all tests. -/
  isAfterAll : String → Bool
  /-- Whether notes are taken while the registry is synchronised. -/
  synchronised : Bool := true

namespace Machine

variable {σ ε : Type}

/-! ### Parts of a replay -/

/-- A call of the reporter. -/
def call {α : Type} (act : EStateM ε σ α) : Replay σ ε α :=
  Reporter.onPart Pass.world (fun w p => { p with world := w }) id act

/-- The session. -/
def session : Replay σ ε Session := do
  return (← get).session

/-- Changes the session. -/
def changeSession (f : Session → Session) : Replay σ ε Unit :=
  modify fun p => { p with session := f p.session }

/-- Takes a note about the session. -/
def remark (m : Machine σ ε) (r : Remark) : Replay σ ε Unit := do
  call (m.reporter.note m.synchronised ⟨(← session).contextId, r⟩)

/-! ### Scopes -/

/-- Opens a scope. -/
def openScope (m : Machine σ ε) : Replay σ ε Unit := do
  let scope ← call m.reporter.startScope
  changeSession fun s => { s with scopes := scope :: s.scopes }

/-- Writes the innermost open scope, if there is one. -/
def closeScope (m : Machine σ ε) : Replay σ ε Unit := do
  match (← session).scopes with
  | [] => pure ()
  | scope :: rest =>
    changeSession fun s => { s with scopes := rest }
    call (m.reporter.writeScope scope)

/-! ### Tests -/

/-- Writes the open test, if there is one, after its own scope. -/
def finalizeTest (m : Machine σ ε) (reason : Finalization) : Replay σ ε Unit := do
  match (← session).currentTest with
  | none => pure ()
  | some test =>
    m.closeScope
    call (m.reporter.writeTest test)
    if (← session).executables.contains test then
      changeSession fun s => { s with executables := s.executables.erase test }
      m.remark (.testFinalized reason)
    changeSession fun s => { s with currentTest := none, openSteps := 0 }

/-- Starts a test in a scope of its own, inside all open scopes. -/
def startTest (m : Machine σ ε) (name : String) (start : Int) : Replay σ ε Unit := do
  m.finalizeTest .testStart
  m.openScope
  let scopes := (← session).scopes.reverse
  let test ← call (m.reporter.startTest name start scopes)
  changeSession fun s =>
    { s with executables := test :: s.executables, currentTest := some test, openSteps := 0 }

/-- Gives the newest test that has not ended its full name. -/
def nameTest (m : Machine σ ε) (fullName : String) : Replay σ ε Unit := do
  match (← session).executables with
  | [] => pure ()
  | test :: _ => call (m.reporter.updateTest test fun r => { r with fullName := some fullName })

/-- Closes a number of open steps with the outcome of their test. -/
def closeSteps (m : Machine σ ε) (test : Handle) (status : Status) (stop : Int) :
    Nat → Replay σ ε Unit
  | 0 => pure ()
  | n + 1 => do
    call (m.reporter.applyMessages test [.stepStop status stop none])
    changeSession fun s => { s with openSteps := n }
    m.remark (.stepClosed status)
    m.closeSteps test status stop n

/-- Closes all open steps of the open test. -/
def closeOpenSteps (m : Machine σ ε) (status : Status) (stop : Int) : Replay σ ε Unit := do
  let s ← session
  match s.currentTest with
  | none => pure ()
  | some test => m.closeSteps test status stop s.openSteps

/-- Ends the newest test that has not ended. -/
def endTest (m : Machine σ ε) (ending : TestEnding) (isLast : Bool) : Replay σ ε Unit := do
  match (← session).executables with
  | [] => pure ()
  | test :: rest =>
    changeSession fun s => { s with executables := rest }
    m.closeOpenSteps ending.status ending.stop
    call (m.reporter.updateTest test (·.ended ending))
    call (m.reporter.stopTest test (some ending.stop) ending.duration)
    if isLast then m.finalizeTest .lastMessage

/-! ### Suites -/

/-- Starts a suite. -/
def startSuite (m : Machine σ ε) : Replay σ ε Unit := do
  m.finalizeTest .suiteStart
  m.openScope

/-- Ends a suite. -/
def endSuite (m : Machine σ ε) (isLast : Bool) : Replay σ ε Unit := do
  m.closeScope
  if isLast then m.finalizeTest .lastMessage

/-! ### Hooks -/

/-- Starts a hook. One that runs after all tests finalizes the open test first. -/
def startHook (m : Machine σ ε) (name : String) (kind : HookKind) (start : Int) :
    Replay σ ε Unit := do
  if m.isAfterAll name then m.finalizeTest .afterAllHook
  let scope := (← session).scopes.head?
  match ← call (m.reporter.startFixture scope kind name start) with
  | some fixture => changeSession fun s => { s with fixtures := fixture :: s.fixtures }
  | none => m.remark (.fixtureDeclined name)

/-- Ends the newest hook that runs. -/
def endHook (m : Machine σ ε) (ending : HookEnding) : Replay σ ε Unit := do
  match (← session).fixtures with
  | [] => pure ()
  | fixture :: rest =>
    changeSession fun s => { s with fixtures := rest }
    call (m.reporter.updateFixture fixture (·.ended ending))
    call (m.reporter.stopFixture fixture (some ending.stop) ending.duration)

/-! ### Entries -/

/-- How many steps are open after an entry. -/
def stepsAfter (openSteps : Nat) : TestEntry → Nat
  | .stepStart .. => openSteps + 1
  | .stepStop .. => openSteps - 1
  | _ => openSteps

/-- Hands an entry on to the open test. -/
def applyEntry (m : Machine σ ε) (e : TestEntry) : Replay σ ε Unit := do
  match (← session).currentTest with
  | none => m.remark (.messageDropped e.kind)
  | some test =>
    changeSession fun s => { s with openSteps := stepsAfter s.openSteps e }
    call (m.reporter.applyMessages test [e])

/-! ### Messages and logs -/

/-- Replays a message, which may be the last one. -/
def dispatch (m : Machine σ ε) (isLast : Bool) : Message → Replay σ ε Unit
  | .suiteStart .. => m.startSuite
  | .suiteEnd => m.endSuite isLast
  | .testStart name start => m.startTest name start
  | .testInfo fullName => m.nameTest fullName
  | .testEnd ending => m.endTest ending isLast
  | .hookStart name kind start => m.startHook name kind start
  | .hookEnd ending => m.endHook ending
  | .entry e => m.applyEntry e

/-- Replays the messages of a log, up to its end. -/
def dispatchAll (m : Machine σ ε) : List Message → Replay σ ε Unit
  | [] => pure ()
  | message :: rest => do
    m.dispatch rest.isEmpty message
    m.dispatchAll rest

/-- Stops the fixtures that run, the newest first. -/
def stopFixtures (m : Machine σ ε) : List Handle → Replay σ ε Unit
  | [] => pure ()
  | fixture :: rest => do
    changeSession fun s => { s with fixtures := rest }
    call (m.reporter.stopFixture fixture none none)
    m.remark .fixtureStopped
    m.stopFixtures rest

/-- Closes as many scopes as a list has. -/
def closeScopes (m : Machine σ ε) : List Handle → Replay σ ε Unit
  | [] => pure ()
  | _ :: rest => do
    m.closeScope
    m.closeScopes rest

/-- Ends a replay: what is still open is stopped or written. -/
def settle (m : Machine σ ε) : Replay σ ε Unit := do
  m.stopFixtures (← session).fixtures
  m.finalizeTest .endOfLog
  m.closeScopes (← session).scopes

/-- Replays the log of the session. -/
def replay (m : Machine σ ε) : Replay σ ε Unit := do
  let log := (← session).log
  m.dispatchAll log
  m.settle
  m.remark (.replayFinished log.length)

end Machine

end Chronicle
