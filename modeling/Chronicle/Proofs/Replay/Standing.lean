import Chronicle.Replay.Machine

/-!
# How a replay stands

The session and the report of a replay keep the same things twice: open scopes, the open test, the
steps that are open in it, the fixtures that run. A `Standing` keeps them once, next to what the
replay has reported since it began; `Standing.pass` gives the session and the report back. What each
message does is then a function, `Standing.step`, made of a few moves that open, change or close a
single thing.
-/
namespace Chronicle

/-- The test after a number of its open steps have been closed in one way. -/
def OpenTest.closeSteps (status : Status) (stop : Int) : Nat → OpenTest → OpenTest
  | 0, t => t
  | n + 1, t => closeSteps status stop n (t.closeStep status stop none)

/-- The test that is open, and whether its ending has been read. -/
structure Current where
  test : OpenTest
  ended : Bool
  deriving Repr, Inhabited

/-- The handle of the open test. -/
def Current.handle (c : Current) : Handle :=
  c.test.result.handle

/-- What a replay holds open, and what it has reported since it began. -/
structure Standing where
  /-- The open scopes, the innermost first. -/
  scopes : List Scope := []
  current : Option Current := none
  /-- The fixtures that run, the newest first. -/
  running : List Handle := []
  drawn : Nat
  fixtures : Table FixtureResult
  attachments : List (String × Bytes) := []
  writtenTests : List TestResult := []
  writtenScopes : List Scope := []
  calls : List (Operation × Handle) := []
  deriving Repr, Inhabited

namespace Standing

/-! ### The session and the report -/

/-- The handle that is drawn next. -/
def next (st : Standing) : Handle :=
  .drawn st.drawn

/-- The handles of everything that is open. -/
def held (st : Standing) : List Handle :=
  st.scopes.map (·.handle) ++ (st.current.toList.map (·.handle) ++ st.running)

/-- The open test, unless its ending has been read. -/
def unended (st : Standing) : List Handle :=
  match st.current with
  | some ⟨t, false⟩ => [t.result.handle]
  | _ => []

/-- How many steps of the open test are open. -/
def stepCount (st : Standing) : Nat :=
  match st.current with
  | some c => c.test.openSteps.length
  | none => 0

/-- The session that the replay has made of `s`. -/
def session (s : Session) (st : Standing) : Session :=
  { s with
    scopes := st.scopes.map (·.handle)
    executables := st.unended
    fixtures := st.running
    currentTest := st.current.map (·.handle)
    openSteps := st.stepCount }

/-- The session while the open test ends, which is no executable any more. -/
def endingSession (s : Session) (st : Standing) : Session :=
  { st.session s with executables := [] }

/-- The report that the replay has made of `b`. -/
def report (b : Backend) (st : Standing) : Backend :=
  { b with
    drawn := st.drawn
    scopes := st.scopes.map fun s => (s.handle, s)
    tests := st.current.toList.map fun c => (c.handle, c.test)
    running := st.running
    fixtures := st.fixtures
    attachments := st.attachments ++ b.attachments
    writtenTests := b.writtenTests ++ st.writtenTests
    writtenScopes := b.writtenScopes ++ st.writtenScopes
    calls := b.calls ++ st.calls }

/-- What the replay has made of a session and a report. -/
def pass (p : Pass Backend) (st : Standing) : Pass Backend :=
  ⟨st.session p.session, st.report p.world⟩

/-- A replay that has not begun. -/
def initial (b : Backend) : Standing :=
  { drawn := b.drawn, fixtures := b.fixtures }

/-! ### Moves -/

/-- Opens a scope. -/
def openScope (st : Standing) : Standing :=
  { st with
    drawn := st.drawn + 1
    scopes := ⟨st.next, [], [], []⟩ :: st.scopes
    calls := st.calls ++ [(.startScope, st.next)] }

/-- Writes the innermost open scope, if there is one. -/
def closeScope (st : Standing) : Standing :=
  match st.scopes with
  | [] => st
  | s :: rest =>
    { st with
      scopes := rest
      writtenScopes := st.writtenScopes ++ [s]
      calls := st.calls ++ [(.writeScope, s.handle)] }

/-- Opens a test in all open scopes. -/
def beginTest (name : String) (start : Int) (st : Standing) : Standing :=
  { st with
    drawn := st.drawn + 1
    scopes := st.scopes.map (·.addChild st.next)
    current := some ⟨⟨{ handle := st.next, name := name, start := start }, []⟩, false⟩
    calls := st.calls ++ [(.startTest, st.next)] }

/-- Changes the open test, if there is one. -/
def changeTest (op : Operation) (f : OpenTest → OpenTest) (st : Standing) : Standing :=
  match st.current with
  | none => st
  | some c =>
    { st with
      current := some { c with test := f c.test }
      calls := st.calls ++ [(op, c.handle)] }

/-- Adds an attachment to the open test, if there is one. -/
def attach (file : Attachment) (st : Standing) : Standing :=
  match st.current with
  | none => st
  | some c =>
    let source := Backend.sourceName st.next file.contentType
    { st with
      drawn := st.drawn + 1
      current := some { c with test := c.test.attach ⟨file.name, source, file.contentType⟩ }
      attachments := (source, file.content) :: st.attachments
      calls := st.calls ++ [(.applyMessages, c.handle)] }

/-- Stops the open test, if there is one. -/
def stopTest (stop duration : Option Int) (st : Standing) : Standing :=
  match st.current with
  | none => st
  | some c =>
    { st with
      current := some ⟨c.test.update (·.stopped stop duration), true⟩
      calls := st.calls ++ [(.stopTest, c.handle)] }

/-- Writes the open test, if there is one. -/
def writeTest (st : Standing) : Standing :=
  match st.current with
  | none => st
  | some c =>
    { st with
      current := none
      writtenTests := st.writtenTests ++ [c.test.snapshot]
      calls := st.calls ++ [(.writeTest, c.handle)] }

/-- Starts a fixture of the innermost open scope, if there is one. -/
def startFixture (kind : HookKind) (name : String) (start : Int) (st : Standing) : Standing :=
  match st.scopes with
  | [] => st
  | s :: rest =>
    { st with
      drawn := st.drawn + 1
      scopes := s.addFixture kind st.next :: rest
      fixtures := st.fixtures.insert st.next
        { handle := st.next, name := name, kind := kind, start := start }
      running := st.next :: st.running
      calls := st.calls ++ [(.startFixture, st.next)] }

/-- Changes the newest fixture that runs, if there is one. -/
def updateFixture (f : FixtureResult → FixtureResult) (st : Standing) : Standing :=
  match st.running with
  | [] => st
  | h :: _ =>
    { st with
      fixtures := st.fixtures.change h f
      calls := st.calls ++ [(.updateFixture, h)] }

/-- Stops the newest fixture that runs, if there is one. -/
def stopFixture (stop duration : Option Int) (st : Standing) : Standing :=
  match st.running with
  | [] => st
  | h :: rest =>
    { st with
      running := rest
      fixtures := st.fixtures.change h (·.stopped stop duration)
      calls := st.calls ++ [(.stopFixture, h)] }

/-! ### Messages -/

/-- Writes the open test, if there is one, after a scope. -/
def finalize (st : Standing) : Standing :=
  match st.current with
  | none => st
  | some _ => st.closeScope.writeTest

/-- Names the open test, unless its ending has been read. -/
def nameTest (fullName : String) (st : Standing) : Standing :=
  match st.current with
  | some ⟨_, false⟩ =>
    st.changeTest .updateTest (·.update fun r => { r with fullName := some fullName })
  | _ => st

/-- Closes a number of open steps. -/
def closeSteps (status : Status) (stop : Int) : Nat → Standing → Standing
  | 0, st => st
  | n + 1, st =>
    closeSteps status stop n (st.changeTest .applyMessages (·.closeStep status stop none))

/-- Ends the open test, unless its ending has been read. -/
def endTest (e : TestEnding) (st : Standing) : Standing :=
  match st.current with
  | some ⟨t, false⟩ =>
    ((st.closeSteps e.status e.stop t.openSteps.length).changeTest .updateTest
      (·.update (·.ended e))).stopTest (some e.stop) e.duration
  | _ => st

/-- Starts a hook. -/
def startHook (isAfterAll : String → Bool) (name : String) (kind : HookKind) (start : Int)
    (st : Standing) : Standing :=
  (if isAfterAll name then st.finalize else st).startFixture kind name start

/-- Ends the newest hook that runs. -/
def endHook (e : HookEnding) (st : Standing) : Standing :=
  (st.updateFixture (·.ended e)).stopFixture (some e.stop) e.duration

/-- Applies an entry to the open test. -/
def applyEntry (e : TestEntry) (st : Standing) : Standing :=
  match e with
  | .stepStart name start => st.changeTest .applyMessages (·.openStep name start)
  | .stepStop status stop details => st.changeTest .applyMessages (·.closeStep status stop details)
  | .metadata labels parameters => st.changeTest .applyMessages (·.describe labels parameters)
  | .attachment file => st.attach file

/-- What a message does that is not the last one. -/
def step (isAfterAll : String → Bool) (m : Message) (st : Standing) : Standing :=
  match m with
  | .suiteStart .. => st.finalize.openScope
  | .suiteEnd => st.closeScope
  | .testStart name start => st.finalize.openScope.beginTest name start
  | .testInfo fullName => st.nameTest fullName
  | .testEnd e => st.endTest e
  | .hookStart name kind start => st.startHook isAfterAll name kind start
  | .hookEnd e => st.endHook e
  | .entry e => st.applyEntry e

/-- Whether a message finalizes the open test when it is the last one. -/
def finalizes (st : Standing) : Message → Bool
  | .suiteEnd => true
  | .testEnd _ => !st.unended.isEmpty
  | _ => false

/-- What a message does. -/
def dispatch (isAfterAll : String → Bool) (isLast : Bool) (m : Message) (st : Standing) :
    Standing :=
  if isLast && st.finalizes m then (st.step isAfterAll m).finalize else st.step isAfterAll m

/-- What the messages of a log do. -/
def dispatchAll (isAfterAll : String → Bool) : List Message → Standing → Standing
  | [], st => st
  | m :: rest, st => dispatchAll isAfterAll rest (st.dispatch isAfterAll rest.isEmpty m)

/-- Stops as many fixtures as a list has. -/
def stopFixtures : List Handle → Standing → Standing
  | [], st => st
  | _ :: rest, st => stopFixtures rest (st.stopFixture none none)

/-- Closes as many scopes as a list has. -/
def closeScopes : List Scope → Standing → Standing
  | [], st => st
  | _ :: rest, st => closeScopes rest st.closeScope

/-- Stops and writes whatever is open. -/
def settle (st : Standing) : Standing :=
  let st := (st.stopFixtures st.running).finalize
  st.closeScopes st.scopes

end Standing

end Chronicle
