import Chronicle.File.Tree
import Chronicle.Report.Environment
import Chronicle.Report.OpenTest
import Chronicle.Report.Rendering

/-!
# The report as it is built

`Backend` is a report under construction: what is open, what has been written, and every call so
far. Scopes hold fixtures by their handles, so a fixture that stops after its scope has been written
is stopped in the record of that scope too. A report in a results directory also saves a file for
each node at the moment when it is written, and one for each attachment.

An operation on a handle that is not open fails before it changes anything. One that saves a file
has done all the rest by then, and stays half done when the file cannot be saved.
-/
namespace Chronicle

/-- The operations that replaying calls. -/
inductive Operation where
  | startScope | writeScope | startTest | updateTest | stopTest | writeTest
  | startFixture | updateFixture | stopFixture | applyMessages
  deriving DecidableEq, Repr, Inhabited

instance : Vocabulary Operation where
  all := [.startScope, .writeScope, .startTest, .updateTest, .stopTest, .writeTest,
    .startFixture, .updateFixture, .stopFixture, .applyMessages]
  word
    | .startScope => "start_scope"
    | .writeScope => "write_scope"
    | .startTest => "start_test"
    | .updateTest => "update_test"
    | .stopTest => "stop_test"
    | .writeTest => "write_test"
    | .startFixture => "start_fixture"
    | .updateFixture => "update_fixture"
    | .stopFixture => "stop_fixture"
    | .applyMessages => "apply_messages"
  find_word a := by cases a <;> rfl

/-- What a handle can stand for. -/
inductive NodeKind where
  | scope | test | fixture
  deriving DecidableEq, Repr, Inhabited

/-- The name of a kind. -/
def NodeKind.name : NodeKind → String
  | .scope => "scope"
  | .test => "test"
  | .fixture => "fixture"

/-- Why an operation fails. -/
inductive ReportError where
  /-- The handle is not open as this kind. -/
  | unknownHandle (kind : NodeKind) (handle : Handle)
  /-- The file cannot be written. -/
  | notWritten (path : Path)
  deriving DecidableEq, Repr, Inhabited

/-- The text of an error. -/
def ReportError.message : ReportError → String
  | .unknownHandle kind handle => "unknown " ++ kind.name ++ " handle: " ++ handle.name
  | .notWritten path => "failed to write " ++ path.text

/-- A scope, with its fixtures by their handles. -/
structure Scope where
  handle : Handle
  children : List Handle := []
  befores : List Handle := []
  afters : List Handle := []
  deriving DecidableEq, Repr, Inhabited

/-- The scope with a fixture at the end of the list for its kind. -/
def Scope.addFixture (s : Scope) (kind : HookKind) (fixture : Handle) : Scope :=
  match kind with
  | .before => { s with befores := s.befores ++ [fixture] }
  | .after => { s with afters := s.afters ++ [fixture] }

/-- The scope with a test at the end of its children. -/
def Scope.addChild (s : Scope) (test : Handle) : Scope :=
  { s with children := s.children ++ [test] }

/-- Where a report goes. -/
inductive Destination where
  | memory
  /-- A results directory. -/
  | directory (root : Path)
  deriving DecidableEq, Repr, Inhabited

/-- A report under construction. -/
structure Backend where
  /-- How many handles have been drawn. -/
  drawn : Nat := 0
  /-- The open scopes. -/
  scopes : Table Scope := []
  /-- The open tests. -/
  tests : Table OpenTest := []
  /-- The fixtures that run, the newest first. -/
  running : List Handle := []
  /-- All fixtures. -/
  fixtures : Table FixtureResult := []
  /-- The contents of attachments by source, the newest first. -/
  attachments : List (String × Bytes) := []
  writtenTests : List TestResult := []
  writtenScopes : List Scope := []
  calls : List (Operation × Handle) := []
  destination : Destination := .memory
  disk : FileTree := {}
  /-- The files that have been saved, in order. -/
  saved : List (String × Bytes) := []
  deriving Repr, Inhabited

/-- What can be done to a report. -/
abbrev Reporting := EStateM ReportError Backend

namespace Backend

/-- A report that keeps everything in memory, next to the files of a tree. -/
def inMemory (disk : FileTree) : Backend :=
  { disk := disk }

/-- A report in a results directory, which is made if necessary. -/
def inDirectory (disk : FileTree) (root : Path) : Except FileError Backend :=
  match disk.makeDirectories root.steps with
  | .ok disk => .ok { disk := disk, destination := .directory root }
  | .error o => .error ⟨o, root⟩

/-! ### Records -/

/-- The record of a scope. -/
def scopeResult (b : Backend) (s : Scope) : ScopeResult :=
  ⟨s.handle, s.children, s.befores.filterMap b.fixtures.get?, s.afters.filterMap b.fixtures.get?⟩

/-- The records of the scopes that have been written. -/
def writtenScopeResults (b : Backend) : List ScopeResult :=
  b.writtenScopes.map b.scopeResult

/-! ### Parts of operations -/

/-- Draws a handle. -/
def draw : Reporting Handle :=
  modifyGet fun b => (.drawn b.drawn, { b with drawn := b.drawn + 1 })

/-- Notes a call. -/
def called (op : Operation) (h : Handle) : Reporting Unit :=
  modify fun b => { b with calls := b.calls ++ [(op, h)] }

/-- Saves a file in the results directory, if the report has one. -/
def save (name : String) (content : Bytes) : Reporting Unit := do
  let b ← get
  match b.destination with
  | .memory => pure ()
  | .directory root =>
    let path := root.child name
    match b.disk.write path.steps content with
    | .ok disk => set { b with disk := disk, saved := b.saved ++ [(name, content)] }
    | .error _ => throw (.notWritten path)

/-- An open scope. -/
def openScope (h : Handle) : Reporting Scope := do
  match (← get).scopes.get? h with
  | some s => pure s
  | none => throw (.unknownHandle .scope h)

/-- An open test. -/
def openTest (h : Handle) : Reporting OpenTest := do
  match (← get).tests.get? h with
  | some t => pure t
  | none => throw (.unknownHandle .test h)

/-- Requires that a fixture runs. -/
def requireRunning (h : Handle) : Reporting Unit := do
  if (← get).running.contains h then pure () else throw (.unknownHandle .fixture h)

/-- Changes an open test. -/
def changeTest (h : Handle) (f : OpenTest → OpenTest) : Reporting Unit :=
  modify fun b => { b with tests := b.tests.change h f }

/-- Changes a fixture. -/
def changeFixture (h : Handle) (f : FixtureResult → FixtureResult) : Reporting Unit :=
  modify fun b => { b with fixtures := b.fixtures.change h f }

/-! ### Scopes -/

/-- Opens a scope. -/
def startScope : Reporting Handle := do
  let h ← draw
  modify fun b => { b with scopes := b.scopes.insert h ⟨h, [], [], []⟩ }
  called .startScope h
  return h

/-- Writes a scope, which closes it. -/
def writeScope (h : Handle) : Reporting Unit := do
  let s ← openScope h
  modify fun b => { b with scopes := b.scopes.remove h }
  called .writeScope h
  save (h.name ++ "-container.json") (Rendering.scopeJson ((← get).scopeResult s)).octets
  modify fun b => { b with writtenScopes := b.writtenScopes ++ [s] }

/-! ### Tests -/

/-- Opens a test as a child of scopes; those that are not open are passed over. -/
def startTest (name : String) (start : Int) (scopes : List Handle) : Reporting Handle := do
  let h ← draw
  modify fun b =>
    { b with
      tests := b.tests.insert h ⟨{ handle := h, name := name, start := start }, []⟩
      scopes := scopes.foldl (fun open_ s => open_.change s (·.addChild h)) b.scopes }
  called .startTest h
  return h

/-- Changes the record of a test. -/
def updateTest (h : Handle) (f : TestResult → TestResult) : Reporting Unit := do
  let _ ← openTest h
  changeTest h (·.update f)
  called .updateTest h

/-- Records when a test stopped. -/
def stopTest (h : Handle) (stop duration : Option Int) : Reporting Unit := do
  let _ ← openTest h
  changeTest h (·.update (·.stopped stop duration))
  called .stopTest h

/-- Writes a test, which closes it. -/
def writeTest (h : Handle) : Reporting Unit := do
  let t ← openTest h
  modify fun b => { b with tests := b.tests.remove h }
  called .writeTest h
  save (h.name ++ "-result.json") (Rendering.testJson t.snapshot).octets
  modify fun b => { b with writtenTests := b.writtenTests ++ [t.snapshot] }

/-! ### Fixtures -/

/-- Starts a fixture of an open scope. Without one it is declined, and nothing happens. -/
def startFixture (scope : Option Handle) (kind : HookKind) (name : String) (start : Int) :
    Reporting (Option Handle) := do
  match scope.filter (← get).scopes.has with
  | none => return none
  | some s =>
    let h ← draw
    modify fun b =>
      { b with
        scopes := b.scopes.change s (·.addFixture kind h)
        fixtures := b.fixtures.insert h { handle := h, name := name, kind := kind, start := start }
        running := h :: b.running }
    called .startFixture h
    return some h

/-- Changes the record of a fixture that runs. -/
def updateFixture (h : Handle) (f : FixtureResult → FixtureResult) : Reporting Unit := do
  requireRunning h
  changeFixture h f
  called .updateFixture h

/-- Records when a fixture stopped; it does not run any more. -/
def stopFixture (h : Handle) (stop duration : Option Int) : Reporting Unit := do
  requireRunning h
  modify fun b => { b with running := b.running.filter (· != h) }
  changeFixture h (·.stopped stop duration)
  called .stopFixture h

/-! ### Entries -/

/-- The ending of a file's name, by the type of its content. -/
def fileExtension : String → String
  | "text/plain" => ".txt"
  | "text/csv" => ".csv"
  | "text/html" => ".html"
  | "application/json" => ".json"
  | "application/xml" => ".xml"
  | "image/png" => ".png"
  | "image/jpeg" => ".jpg"
  | "video/webm" => ".webm"
  | _ => ""

/-- The name of the file that holds an attachment. -/
def sourceName (h : Handle) (contentType : String) : String :=
  h.name ++ "-attachment" ++ fileExtension contentType

/-- Applies an entry to a test. -/
def applyEntry (h : Handle) : TestEntry → Reporting Unit
  | .stepStart name start => changeTest h (·.openStep name start)
  | .stepStop status stop details => changeTest h (·.closeStep status stop details)
  | .metadata labels parameters => changeTest h (·.describe labels parameters)
  | .attachment file => do
    let source := sourceName (← draw) file.contentType
    changeTest h (·.attach ⟨file.name, source, file.contentType⟩)
    modify fun b => { b with attachments := (source, file.content) :: b.attachments }
    save source file.content

/-- Applies entries to an open test, one after another. -/
def applyMessages (h : Handle) (entries : List TestEntry) : Reporting Unit := do
  let _ ← openTest h
  entries.forM (applyEntry h)
  called .applyMessages h

/-! ### The environment -/

/-- Writes what is known about the environment into the results directory, if there is one. -/
def writeEnvironment (info : List (String × String)) : Reporting Unit :=
  save Environment.fileName (Environment.content info)

end Backend

end Chronicle
