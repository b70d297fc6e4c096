import Chronicle.Proofs.Replay.Sources
import Mathlib.Logic.Function.Basic

/-!
# Reports under other handles

Which handle something gets depends on how many have been drawn before it. `Handle.shift k` is the
handle that is drawn in its place after `k` other draws. It is carried over to everything in which
handles occur: the records of a report, and the sources of attachments, which are made of handles.
An operation on a test that does not look at handles does the same under the other ones.

`Report` is what a report says once it is finished; `Report.followedBy` puts one behind another.
-/
namespace Chronicle

/-! ### Handles and sources -/

namespace Handle

/-- How many draws come before the one that gives a handle. -/
def number (h : Handle) : Nat :=
  Decimal.ofDigits h.name.toList.tail - 1

/-- The number of a drawn handle is how many were drawn before it. -/
@[simp] theorem number_drawn (n : Nat) : (drawn n).number = n := by
  rw [number, drawn, String.toList_ofList, List.tail_cons, Decimal.ofDigits_digits]
  rfl

/-- The handle that is drawn in its place after `k` other draws. What is not drawn stays as it
is. -/
def shift (k : Nat) (h : Handle) : Handle :=
  if h = .drawn h.number then .drawn (h.number + k) else h

/-- After more draws a later handle is drawn. -/
@[simp] theorem shift_drawn (k n : Nat) : (drawn n).shift k = drawn (n + k) := by
  rw [shift, number_drawn, if_pos rfl]

/-- Different handles stay different. -/
theorem shift_injective (k : Nat) : Function.Injective (shift k) := by
  intro h h' heq
  by_cases hh : h = .drawn h.number <;> by_cases hh' : h' = .drawn h'.number
  · -- two handles that are drawn: the numbers agree, and so do the handles
    rw [hh, hh', shift_drawn, shift_drawn] at heq
    have hnumber : h.number + k = h'.number + k := drawn_injective heq
    rw [hh, hh', show h.number = h'.number by omega]
  · rw [shift, if_pos hh, shift, if_neg hh'] at heq
    exact absurd (by rw [← heq, number_drawn]) hh'
  · rw [shift, if_neg hh, shift, if_pos hh'] at heq
    exact absurd (by rw [heq, number_drawn]) hh
  · rwa [shift, if_neg hh, shift, if_neg hh'] at heq

/-- What is drawn after `k` other draws is none of them. -/
theorem IsBefore.not_isBefore_shift {h : Handle} {n : Nat} (hh : h.IsBefore n) (k : Nat) :
    ¬(h.shift k).IsBefore k := by
  obtain ⟨m, -, rfl⟩ := hh
  rintro ⟨j, hj, heq⟩
  rw [shift_drawn] at heq
  have := drawn_injective heq
  omega

/-- A handle that has been drawn has been drawn after more draws, too. -/
theorem IsBefore.shift {h : Handle} {n : Nat} (hh : h.IsBefore n) (k : Nat) :
    (h.shift k).IsBefore (n + k) := by
  obtain ⟨m, hm, rfl⟩ := hh
  exact ⟨m + k, by omega, shift_drawn k m⟩

end Handle

/-- The source of an attachment when `k` other draws come first. -/
def shiftSource (k : Nat) (source : String) : String :=
  let handle : Handle := ⟨String.ofList (source.toList.takeWhile (· ≠ '-'))⟩
  (handle.shift k).name ++ String.ofList (source.toList.dropWhile (· ≠ '-'))

/-- A source that is made of a drawn handle is made of the later one. -/
theorem shiftSource_sourceName (k n : Nat) (type : String) :
    shiftSource k (Backend.sourceName (.drawn n) type)
      = Backend.sourceName (.drawn (n + k)) type := by
  have hrest : (Backend.sourceName (.drawn n) type).toList.dropWhile (· ≠ '-')
      = ("-attachment" ++ Backend.fileExtension type).toList := by
    simp only [Backend.sourceName, String.toList_append, List.append_assoc]
    rw [List.dropWhile_append_of_pos fun c hc => decide_eq_true (ne_dash_of_mem_drawn hc)]
    rfl
  have hhandle : (⟨String.ofList (Handle.drawn n).name.toList⟩ : Handle) = .drawn n := by
    rw [String.ofList_toList]
  simp only [shiftSource, takeWhile_sourceName, hrest]
  rw [hhandle, Handle.shift_drawn, String.ofList_toList, Backend.sourceName, String.append_assoc]

/-! ### Records -/

/-- The reference to an attachment under its other source. -/
def AttachmentRef.shift (k : Nat) (ref : AttachmentRef) : AttachmentRef :=
  { ref with source := shiftSource k ref.source }

mutual

/-- The step with all attachments in it under their other sources. -/
def StepResult.shift (k : Nat) : StepResult → StepResult
  | ⟨name, start, stop, status, details, stage, steps, attachments⟩ =>
    ⟨name, start, stop, status, details, stage, StepResult.shiftAll k steps,
      attachments.map (·.shift k)⟩

/-- The steps of a list under their other sources. -/
def StepResult.shiftAll (k : Nat) : List StepResult → List StepResult
  | [] => []
  | s :: rest => s.shift k :: StepResult.shiftAll k rest

end

/-- The test under its other handle. -/
def TestResult.shift (k : Nat) (r : TestResult) : TestResult :=
  { r with
    handle := r.handle.shift k
    steps := r.steps.map (·.shift k)
    attachments := r.attachments.map (·.shift k) }

/-- The open test under its other handle. -/
def OpenTest.shift (k : Nat) (t : OpenTest) : OpenTest :=
  ⟨t.result.shift k, t.openSteps.map (·.shift k)⟩

/-- The fixture under its other handle. -/
def FixtureResult.shift (k : Nat) (r : FixtureResult) : FixtureResult :=
  { r with handle := r.handle.shift k }

/-- The scope under its other handle, with all that is in it. -/
def Scope.shift (k : Nat) (s : Scope) : Scope where
  handle := s.handle.shift k
  children := s.children.map (·.shift k)
  befores := s.befores.map (·.shift k)
  afters := s.afters.map (·.shift k)

/-- The record of a scope under its other handle, with all that is in it. -/
def ScopeResult.shift (k : Nat) (r : ScopeResult) : ScopeResult where
  handle := r.handle.shift k
  children := r.children.map (·.shift k)
  befores := r.befores.map (·.shift k)
  afters := r.afters.map (·.shift k)

/-- Steps are carried over one by one. -/
private theorem StepResult.shiftAll_eq_map (k : Nat) (steps : List StepResult) :
    StepResult.shiftAll k steps = steps.map (·.shift k) := by
  induction steps with
  | nil => rfl
  | cons s rest ih => rw [StepResult.shiftAll, ih, List.map_cons]

/-- A step is carried over with its steps and attachments. -/
private theorem StepResult.shift_mk (k : Nat) (name : String) (start : Int) (stop : Option Int)
    (status : Option Status) (details : Option StatusDetails) (stage : Stage)
    (steps : List StepResult) (attachments : List AttachmentRef) :
    (mk name start stop status details stage steps attachments).shift k
      = mk name start stop status details stage (steps.map (·.shift k))
        (attachments.map (·.shift k)) := by
  rw [StepResult.shift, StepResult.shiftAll_eq_map]

/-! ### What is done to a test -/

namespace StepResult

variable (k : Nat) (s : StepResult)

/-- A step may be put into another before or after. -/
private theorem shift_adopt (inner : StepResult) :
    (s.adopt inner).shift k = (s.shift k).adopt (inner.shift k) := by
  cases s
  simp only [shift_mk, adopt, List.map_append, List.map_cons, List.map_nil]

/-- A file may be attached to a step before or after. -/
theorem shift_attach (ref : AttachmentRef) :
    (s.attach ref).shift k = (s.shift k).attach (ref.shift k) := by
  cases s
  simp only [shift_mk, attach, List.map_append, List.map_cons, List.map_nil]

/-- A step may be closed before or after. -/
private theorem shift_closed (status : Status) (stop : Int) (details : Option StatusDetails) :
    (s.closed status stop details).shift k = (s.shift k).closed status stop details := by
  cases s
  simp only [shift_mk, closed]

/-- A chain of steps may be put together before or after. -/
private theorem shift_nest (outer : List StepResult) :
    (s.nest outer).shift k = (s.shift k).nest (outer.map (·.shift k)) := by
  induction outer generalizing s with
  | nil => rfl
  | cons outer rest ih => rw [nest, ih, shift_adopt, List.map_cons, nest]

end StepResult

namespace OpenTest

variable (k : Nat) (t : OpenTest)

/-- A step may be put into a test before or after. -/
private theorem shift_adopt (r : TestResult) (s : StepResult) :
    (adopt r s).shift k = adopt (r.shift k) (s.shift k) := by
  simp only [adopt, TestResult.shift, List.map_append, List.map_cons, List.map_nil]

/-- What a test shows may be carried over, or the test. -/
theorem shift_snapshot : t.snapshot.shift k = (t.shift k).snapshot := by
  obtain ⟨result, openSteps⟩ := t
  cases openSteps with
  | nil => rfl
  | cons inner rest =>
    show (adopt result (inner.nest rest)).shift k = _
    rw [shift_adopt, StepResult.shift_nest]
    rfl

/-- A step may be opened before or after. -/
theorem shift_openStep (name : String) (start : Int) :
    (t.openStep name start).shift k = (t.shift k).openStep name start := by
  simp only [openStep, shift, List.map_cons, StepResult.shift_mk, List.map_nil]

/-- The innermost step may be closed before or after. -/
theorem shift_closeStep (status : Status) (stop : Int) (details : Option StatusDetails) :
    (t.closeStep status stop details).shift k = (t.shift k).closeStep status stop details := by
  obtain ⟨result, openSteps⟩ := t
  match openSteps with
  -- no step, one step that goes into the test, and one that goes into the step around it
  | [] => rfl
  | [s] =>
    show OpenTest.mk ((adopt result (s.closed status stop details)).shift k) [] = _
    rw [shift_adopt, StepResult.shift_closed]
    rfl
  | s :: outer :: rest =>
    show OpenTest.mk (result.shift k)
      ((outer.adopt (s.closed status stop details)).shift k :: rest.map (·.shift k)) = _
    rw [StepResult.shift_adopt, StepResult.shift_closed]
    rfl

/-- A file may be attached to the innermost step before or after. -/
theorem shift_attach (ref : AttachmentRef) :
    (t.attach ref).shift k = (t.shift k).attach (ref.shift k) := by
  obtain ⟨result, openSteps⟩ := t
  cases openSteps with
  | nil => simp only [attach, shift, TestResult.shift, List.map_append, List.map_cons, List.map_nil]
  | cons s rest =>
    show OpenTest.mk (result.shift k) ((s.attach ref).shift k :: rest.map (·.shift k)) = _
    rw [StepResult.shift_attach]
    rfl

/-- Labels and parameters have no handles. -/
theorem shift_describe (labels : List Label) (parameters : List Parameter) :
    (t.describe labels parameters).shift k = (t.shift k).describe labels parameters := rfl

/-- A change of a test that looks at no handle may be made before or after. -/
theorem shift_update {f : TestResult → TestResult} (hf : ∀ r, (f r).shift k = f (r.shift k)) :
    (t.update f).shift k = (t.shift k).update f := by
  simp only [update, shift, hf]

end OpenTest

/-! ### Finished reports -/

/-- What a report says once it is finished: how many handles it has used, what has been called, the
tests and scopes that have been written, and what has been attached, all in order. -/
structure Report where
  drawn : Nat := 0
  calls : List (Operation × Handle) := []
  tests : List TestResult := []
  scopes : List ScopeResult := []
  attachments : List (String × Bytes) := []
  deriving Repr, Inhabited

/-- What a report under construction says so far. -/
def Backend.finished (b : Backend) : Report where
  drawn := b.drawn
  calls := b.calls
  tests := b.writtenTests
  scopes := b.writtenScopeResults
  attachments := b.attachments.reverse

namespace Report

/-- The same report when `k` other draws come first. -/
def shift (k : Nat) (r : Report) : Report where
  drawn := r.drawn + k
  calls := r.calls.map fun call => (call.1, call.2.shift k)
  tests := r.tests.map (·.shift k)
  scopes := r.scopes.map (·.shift k)
  attachments := r.attachments.map fun a => (shiftSource k a.1, a.2)

/-- A report and behind it another one, whose handles are drawn after those of the first. -/
def followedBy (r r' : Report) : Report where
  drawn := (r'.shift r.drawn).drawn
  calls := r.calls ++ (r'.shift r.drawn).calls
  tests := r.tests ++ (r'.shift r.drawn).tests
  scopes := r.scopes ++ (r'.shift r.drawn).scopes
  attachments := r.attachments ++ (r'.shift r.drawn).attachments

/-- Reports one behind another. -/
def concat (reports : List Report) : Report :=
  reports.foldl followedBy {}

end Report

end Chronicle
