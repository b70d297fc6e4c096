import Chronicle.File.Path
import Chronicle.Octets.Utf8
import Chronicle.Session.Registry
import Chronicle.Text.Case

/-!
# The recorder

What a test framework calls while tests run. A recorder turns the calls into messages for the
session of the active execution context. Where a framework reports an outcome without a start, a
test that fails before it began or a hook that fails outside any test, the recorder looks at what is
pending in the log and makes up the missing start.

A call that is told no time asks the clock. `Recording` keeps what a call has done when it fails.
-/
namespace Chronicle

/-- What records, and where. -/
structure Recorder where
  registry : Registry
  /-- The context that was asked for last. -/
  chosen : Option String := none
  /-- The names of the open suites of each context, the outermost first. -/
  suiteNames : String → List String := fun _ => []
  /-- The package of each context. -/
  packages : String → Option String := fun _ => none
  language : String := "python"
  framework : String := "lifecycle-report"
  /-- The time that each reading of the clock gives. -/
  clock : Nat → Int
  /-- How often the clock has been read. -/
  readings : Nat := 0

/-- Why a call fails. -/
inductive RecordError where
  /-- A message would break a rule. -/
  | defect (d : Defect)
  /-- A test is skipped that has neither started nor a name. -/
  | unnamedSkip
  /-- A path has no last name to take a package from. -/
  | unnamedFile (path : Path)
  deriving DecidableEq, Repr, Inhabited

/-- The text of an error. -/
def RecordError.message : RecordError → String
  | .defect d => d.message
  | .unnamedSkip => "skip_test needs a test name when no test is pending"
  | .unnamedFile path => "PurePosixPath(" ++ Text.quote path.text ++ ") has an empty name"

/-- A call of a recorder. -/
abbrev Recording := EStateM RecordError Recorder

namespace Recorder

/-! ### Parts of calls -/

/-- The active context. -/
def context (r : Recorder) : String :=
  r.registry.resolve r.chosen

/-- The session of the active context, which is made on first use. -/
def session : Recording Session := do
  modify fun r => { r with registry := r.registry.register (some r.context) }
  let r ← get
  return r.registry.sessionOf (some r.context)

/-- Whether a span is pending in the active context. -/
def isPending (s : Span) : Recording Bool := do
  return (← session).isPending s

/-- Adds a message to the log of the active context. -/
def push (m : Message) : Recording Unit := do
  match m.checked with
  | .ok m => modify fun r => { r with registry := r.registry.push (some r.context) m }
  | .error d => throw (.defect d)

/-- The time that is given, or else the time on the clock. -/
def time : Option Int → Recording Int
  | some t => return t
  | none => modifyGet fun r => (r.clock r.readings, { r with readings := r.readings + 1 })

/-- Changes the names of the open suites of the active context. -/
def changeSuiteNames (f : List String → List String) : Recording Unit :=
  modify fun r =>
    { r with
      suiteNames := fun id => if id = r.context then f (r.suiteNames id) else r.suiteNames id }

/-! ### Labels -/

/-- The labels that say in which suites a test is: the outermost, the next, and all further ones
together. -/
def labelsOfSuites : List String → List Label
  | [] => []
  | [a] => [LabelName.parentSuite.label a]
  | [a, b] => [LabelName.parentSuite.label a, LabelName.suite.label b]
  | a :: b :: rest =>
    [LabelName.parentSuite.label a, LabelName.suite.label b,
      LabelName.subSuite.label (" > ".intercalate rest)]

/-- The labels of the open suites. -/
def suiteLabels (r : Recorder) : List Label :=
  labelsOfSuites (r.suiteNames r.context)

/-- The labels of every test that starts in the active context. -/
def testLabels (r : Recorder) : List Label :=
  r.suiteLabels ++ ((r.packages r.context).map LabelName.package.label).toList
    ++ [LabelName.language.label r.language, LabelName.framework.label r.framework,
      LabelName.thread.label r.context]

/-! ### Contexts and suites -/

/-- Chooses the context of the calls that follow. -/
def useContext (contextId : Option String) : Recording Unit :=
  modify fun r => { r with chosen := contextId }

/-- Starts a suite. -/
def startSuite (name : String) (isFeature : Bool) : Recording Unit := do
  changeSuiteNames (· ++ [name])
  push (.suiteStart name isFeature)

/-- Ends a suite. -/
def endSuite : Recording Unit := do
  push .suiteEnd
  changeSuiteNames List.dropLast

/-! ### Tests -/

/-- Starts a test and labels it. -/
def startTest (name : String) (start : Option Int) : Recording Unit := do
  push (.testStart name (← time start))
  let labels := (← get).testLabels
  let feature := (← session).currentFeature
  push (.entry (.metadata (labels ++ (feature.map LabelName.feature.label).toList) []))

/-- The package that a file belongs to: the names on its path joined by points, without the suffix
of the last one. -/
def packageOf (path : Path) : Option String :=
  path.stemNames?.map (".".intercalate ·)

/-- Gives a test its full name. The file of a test names the package of this and every later test of
the context. -/
def addTestInfo (fullName : String) (file : Option String) : Recording Unit := do
  push (.testInfo fullName)
  match file with
  | none | some "" => pure ()
  | some file =>
    let path := Path.ofText file
    match packageOf path with
    | none => throw (.unnamedFile path)
    | some package =>
      modify fun r =>
        { r with
          packages := fun id => if id = r.context then some package else r.packages id }
      if ← isPending .test then
        push (.entry (.metadata [LabelName.package.label package] []))

/-- Ends a test. -/
def endTest (status : Status) (stage : Option Stage) (stop duration : Option Int)
    (details : Option StatusDetails) : Recording Unit := do
  push (.testEnd ⟨status, ← time stop, stage, duration, details⟩)

/-- Ends a test that passed. -/
def passTest (stop duration : Option Int) : Recording Unit :=
  endTest .passed (some .finished) stop duration none

/-- Ends a test that failed, and starts it first if none is pending. -/
def failTest (name : String) (status : Status) (details : Option StatusDetails)
    (start stop duration : Option Int) : Recording Unit := do
  if !(← isPending .test) then startTest name start
  endTest status (some .finished) stop duration details

/-- Ends a test that is skipped, and starts it first if none is pending. -/
def skipTest (name : Option String) (start : Option Int) : Recording Unit := do
  if !(← isPending .test) then
    match name with
    | none => throw .unnamedSkip
    | some name => startTest name start
  endTest .skipped (some .pending) none none none

/-- Labels a test as one that ran again. -/
def markRetried : Recording Unit :=
  push (.entry (.metadata [LabelName.tag.label "retried"] []))

/-- Adds labels, if there are any. -/
def addLabels (labels : List Label) : Recording Unit :=
  if labels.isEmpty then pure () else push (.entry (.metadata labels []))

/-- Adds parameters, if there are any. -/
def addParameters (parameters : List Parameter) : Recording Unit :=
  if parameters.isEmpty then pure () else push (.entry (.metadata [] parameters))

/-- Attaches a content. -/
def attach (name : String) (content : Bytes) (contentType : String) : Recording Unit :=
  push (.entry (.attachment { name := name, content := content, contentType := contentType }))

/-- Attaches a text in UTF-8. -/
def attachText (name text contentType : String) : Recording Unit :=
  attach name (Utf8.encode text.toList) contentType

/-! ### Steps -/

/-- Starts a step. -/
def startStep (name : String) (start : Option Int) : Recording Unit := do
  push (.entry (.stepStart name (← time start)))

/-- Ends a step. -/
def endStep (status : Status) (stop : Option Int) (details : Option StatusDetails) :
    Recording Unit := do
  push (.entry (.stepStop status (← time stop) details))

/-! ### Hooks -/

/-- The kind of a hook by its name: one that says "before" prepares, every other one cleans up. -/
def hookKindOf (name : String) : HookKind :=
  if Text.occursIgnoringCase "before".toList name.toList then .before else .after

/-- Starts a hook. Hooks outside any suite are not reported. -/
def startHook (name : String) (kind : Option HookKind) (start : Option Int) : Recording Bool := do
  if ← isPending .suite then
    push (.hookStart name (kind.getD (hookKindOf name)) (← time start))
    return true
  else return false

/-- Ends a hook. One that fails where neither a test nor a hook is pending becomes a broken test of
its own; one that fails without a start is started first. -/
def endHook (name : String) (error : Option StatusDetails) (kind : Option HookKind)
    (start stop duration : Option Int) : Recording Bool := do
  let s ← session
  if !s.isPending .suite then return false
  let kind := kind.getD (hookKindOf name)
  let stop ← time stop
  if error.isSome && !s.isPending .test && !s.isPending .hook then
    let start ← time start
    startTest name (some start)
    push (.hookStart name kind start)
    push (.hookEnd ⟨.broken, stop, duration, error⟩)
    endTest .broken (some .finished) (some stop) duration none
    return true
  if error.isSome && !s.isPending .hook then
    push (.hookStart name kind (← time start))
  push (.hookEnd ⟨if error.isSome then .broken else .passed, stop, duration, error⟩)
  return true

end Recorder

end Chronicle
