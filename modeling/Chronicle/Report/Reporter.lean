import Chronicle.Log.Note
import Chronicle.Report.Backend

/-!
# Reporters

A reporter is what replaying drives: the operations of a report, and a place for notes. `σ` is the
state that it works on and `ε` what can go wrong.

`Desk` is a report under construction with the notes taken so far. `Desk.reporter` drives it,
`Desk.silent` does the same without notes, and `Reporter.failing` makes calls of a reporter fail
before they do anything.
-/
namespace Chronicle

/-- The operations of a report, and a place for notes. -/
structure Reporter (σ ε : Type) where
  startScope : EStateM ε σ Handle
  writeScope : Handle → EStateM ε σ Unit
  startTest : String → Int → List Handle → EStateM ε σ Handle
  updateTest : Handle → (TestResult → TestResult) → EStateM ε σ Unit
  stopTest : Handle → Option Int → Option Int → EStateM ε σ Unit
  writeTest : Handle → EStateM ε σ Unit
  startFixture : Option Handle → HookKind → String → Int → EStateM ε σ (Option Handle)
  updateFixture : Handle → (FixtureResult → FixtureResult) → EStateM ε σ Unit
  stopFixture : Handle → Option Int → Option Int → EStateM ε σ Unit
  applyMessages : Handle → List TestEntry → EStateM ε σ Unit
  /-- Takes a note. The flag says whether the registry was synchronised at that moment. -/
  note : Bool → Note → EStateM ε σ Unit

namespace Reporter

variable {σ τ ε δ : Type}

/-- An action on a part of a state. -/
def onPart (get : τ → σ) (set : σ → τ → τ) (wrap : ε → δ) {α : Type} (act : EStateM ε σ α) :
    EStateM δ τ α := fun t =>
  match act (get t) with
  | .ok a s => .ok a (set s t)
  | .error e s => .error (wrap e) (set s t)

/-- The reporter that works on a part of a state, `before` each operation and each note going ahead
of it. -/
def extend (r : Reporter σ ε) (get : τ → σ) (set : σ → τ → τ) (wrap : ε → δ)
    (before : Operation → EStateM δ τ Unit) (note : Bool → Note → EStateM δ τ Unit) :
    Reporter τ δ where
  startScope := do before .startScope; onPart get set wrap r.startScope
  writeScope h := do before .writeScope; onPart get set wrap (r.writeScope h)
  startTest name start scopes := do
    before .startTest; onPart get set wrap (r.startTest name start scopes)
  updateTest h f := do before .updateTest; onPart get set wrap (r.updateTest h f)
  stopTest h stop duration := do before .stopTest; onPart get set wrap (r.stopTest h stop duration)
  writeTest h := do before .writeTest; onPart get set wrap (r.writeTest h)
  startFixture scope kind name start := do
    before .startFixture; onPart get set wrap (r.startFixture scope kind name start)
  updateFixture h f := do before .updateFixture; onPart get set wrap (r.updateFixture h f)
  stopFixture h stop duration := do
    before .stopFixture; onPart get set wrap (r.stopFixture h stop duration)
  applyMessages h entries := do
    before .applyMessages
    onPart get set wrap (r.applyMessages h entries)
  note := note

end Reporter

/-- The reporter of a report under construction, without a place for notes. -/
def Backend.reporter : Reporter Backend ReportError where
  startScope := startScope
  writeScope := writeScope
  startTest := startTest
  updateTest := updateTest
  stopTest := stopTest
  writeTest := writeTest
  startFixture := startFixture
  updateFixture := updateFixture
  stopFixture := stopFixture
  applyMessages := applyMessages
  note _ _ := pure ()

/-! ### Notes beside the report -/

/-- A report under construction, and the notes taken so far with the flag of each. -/
structure Desk where
  report : Backend := {}
  notes : List (Bool × Note) := []
  deriving Repr, Inhabited

namespace Desk

/-- The desk with another report. -/
def withReport (b : Backend) (d : Desk) : Desk :=
  { d with report := b }

/-- The reporter of a desk. -/
def reporter : Reporter Desk ReportError :=
  Backend.reporter.extend Desk.report withReport id (fun _ => pure ())
    fun synchronised n => modify fun d => { d with notes := d.notes ++ [(synchronised, n)] }

/-- The reporter of a desk that takes no notes. -/
def silent : Reporter Desk ReportError :=
  Backend.reporter.extend Desk.report withReport id (fun _ => pure ()) fun _ _ => pure ()

end Desk

/-! ### Calls that fail -/

/-- What goes wrong with a reporter some calls of which fail. -/
inductive Interruption (ε : Type) where
  /-- The reporter itself failed. -/
  | failure (e : ε)
  /-- The call was made to fail. -/
  | injected (op : Operation)
  deriving DecidableEq, Repr, Inhabited

/-- A state with the number of calls of each operation so far. -/
structure Counted (σ : Type) where
  state : σ
  count : Operation → Nat := fun _ => 0

namespace Counted

variable {σ ε : Type}

/-- Counts a call, which fails if the plan says so for its number. -/
def attempt (plan : Operation → Nat → Bool) (op : Operation) :
    EStateM (Interruption ε) (Counted σ) Unit := do
  let c ← get
  let n := c.count op + 1
  set { c with count := fun o => if o = op then n else c.count o }
  if plan op n then throw (.injected op) else pure ()

end Counted

/-- A reporter whose calls fail by a plan, the first call of an operation having the number one. A
call that is made to fail does nothing. -/
def Reporter.failing {σ ε : Type} (r : Reporter σ ε) (plan : Operation → Nat → Bool) :
    Reporter (Counted σ) (Interruption ε) :=
  r.extend Counted.state (fun s c => { c with state := s }) .failure (Counted.attempt plan)
    fun synchronised n =>
      Reporter.onPart Counted.state (fun s c => { c with state := s }) .failure
        (r.note synchronised n)

end Chronicle
