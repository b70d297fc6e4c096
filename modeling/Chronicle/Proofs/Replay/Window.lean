import Chronicle.Proofs.Replay.Lifecycle
import Chronicle.Proofs.Replay.Log
import Mathlib.Data.List.Forall2
import Mathlib.Data.List.TakeWhile

/-!
# The window of a test

The window of a test is the part of the log that follows its start, up to the next message that
finalizes the test, or to the end. `Standing.exists_writtenTests` is the rule behind everything that
is known about written tests: a replay writes one test for each start in the log, in order, and each
is what the messages of its own window make of it.
-/
namespace Chronicle

/-! ### Windows -/

/-- Whether a message finalizes the test that is open. -/
def Message.finalizes (isAfterAll : String → Bool) : Message → Bool
  | .testStart .. | .suiteStart .. => true
  | .hookStart name .. => isAfterAll name
  | _ => false

/-- The messages up to the next one that finalizes the open test. -/
def window (isAfterAll : String → Bool) (log : List Message) : List Message :=
  log.takeWhile fun m => !m.finalizes isAfterAll

/-- A test as the log tells it. -/
structure TestRun where
  name : String
  start : Int
  window : List Message
  deriving DecidableEq, Repr, Inhabited

/-- The tests of a log, in order. -/
def testRuns (isAfterAll : String → Bool) : List Message → List TestRun
  | [] => []
  | .testStart name start :: rest =>
    ⟨name, start, window isAfterAll rest⟩ :: testRuns isAfterAll rest
  | _ :: rest => testRuns isAfterAll rest

/-- A message that finalizes the test ends its window. -/
theorem window_cons_of_finalizes {isAfterAll : String → Bool} {m : Message}
    (hm : m.finalizes isAfterAll = true) (rest : List Message) :
    window isAfterAll (m :: rest) = [] := by
  simp only [window, List.takeWhile_cons, hm]
  rfl

/-- Any other message is in the window. -/
theorem window_cons_of_not_finalizes {isAfterAll : String → Bool} {m : Message}
    (hm : m.finalizes isAfterAll = false) (rest : List Message) :
    window isAfterAll (m :: rest) = m :: window isAfterAll rest := by
  simp only [window, List.takeWhile_cons, hm]
  rfl

/-- No message of a window finalizes the open test. -/
private theorem finalizes_of_mem_window {isAfterAll : String → Bool} {log : List Message}
    {m : Message} (hm : m ∈ window isAfterAll log) : m.finalizes isAfterAll = false := by
  simpa using List.mem_takeWhile_imp hm

/-- The messages that finalize the open test. -/
theorem Message.cases_of_finalizes {isAfterAll : String → Bool} {m : Message}
    (hm : m.finalizes isAfterAll = true) :
    (∃ name isFeature, m = .suiteStart name isFeature)
      ∨ (∃ name start, m = .testStart name start)
      ∨ ∃ name kind start, m = .hookStart name kind start ∧ isAfterAll name = true := by
  cases m with
  | suiteStart name isFeature => exact .inl ⟨name, isFeature, rfl⟩
  | testStart name start => exact .inr (.inl ⟨name, start, rfl⟩)
  | hookStart name kind start => exact .inr (.inr ⟨name, kind, start, rfl, hm⟩)
  | suiteEnd | testInfo | testEnd | hookEnd | entry => cases hm

/-- A log is a window and what follows it, which begins with a message that finalizes. -/
private theorem exists_eq_window_append (isAfterAll : String → Bool) (log : List Message) :
    ∃ rest, log = window isAfterAll log ++ rest
      ∧ ∀ m ∈ rest.head?, m.finalizes isAfterAll = true := by
  refine ⟨log.dropWhile fun m => !m.finalizes isAfterAll, List.takeWhile_append_dropWhile.symm, ?_⟩
  intro m hm
  have hhead := List.head?_dropWhile_not (fun m : Message => !m.finalizes isAfterAll) log
  rw [Option.mem_def.1 hm] at hhead
  simpa using hhead

/-- The test that a run opens under a handle. -/
def TestRun.opened (run : TestRun) (h : Handle) : Current :=
  ⟨⟨{ handle := h, name := run.name, start := run.start }, []⟩, false⟩

/-- The open test after a message of its window. A new handle is for an attachment. -/
def Current.after (next : Handle) (c : Current) : Message → Current
  | .testInfo fullName =>
    if c.ended then c
    else ⟨c.test.update fun r => { r with fullName := some fullName }, c.ended⟩
  | .testEnd e =>
    if c.ended then c
    else
      ⟨((c.test.closeSteps e.status e.stop c.test.openSteps.length).update (·.ended e)).update
        (·.stopped (some e.stop) e.duration), true⟩
  | .entry (.stepStart name start) => ⟨c.test.openStep name start, c.ended⟩
  | .entry (.stepStop status stop details) => ⟨c.test.closeStep status stop details, c.ended⟩
  | .entry (.metadata labels parameters) => ⟨c.test.describe labels parameters, c.ended⟩
  | .entry (.attachment file) =>
    ⟨c.test.attach ⟨file.name, Backend.sourceName next file.contentType, file.contentType⟩, c.ended⟩
  | _ => c

/-- The handle of a record does not depend on the steps that are open. -/
theorem OpenTest.handle_snapshot (t : OpenTest) : t.snapshot.handle = t.result.handle := by
  obtain ⟨r, _ | ⟨s, rest⟩⟩ := t <;> rfl

/-- A message leaves the handle of the open test alone. -/
theorem Current.handle_after (next : Handle) (c : Current) (m : Message) :
    (c.after next m).handle = c.handle := by
  cases m with
  | suiteStart | suiteEnd | testStart | hookStart | hookEnd => rfl
  | testInfo fullName =>
    simp only [Current.after]
    split <;> rfl
  -- the first ending closes steps, later ones change nothing
  | testEnd e =>
    simp only [Current.after]
    split
    · rfl
    · exact OpenTest.keepsHandle_closeSteps _ _ _ c.test
  -- an entry may change the steps, which have no part in the handle
  | entry e =>
    cases e with
    | stepStart | metadata => rfl
    | stepStop => exact OpenTest.keepsHandle_closeStep _ _ _ c.test
    | attachment => exact OpenTest.keepsHandle_attach _ c.test

namespace Standing

variable {st : Standing} {isAfterAll : String → Bool} {m : Message} {name : String}

/-! ### Messages of a window -/

/-- A hook of an ordinary name only starts a fixture. -/
theorem step_hookStart (hname : isAfterAll name = false) (kind : HookKind) (start : Int)
    (st : Standing) : st.step isAfterAll (.hookStart name kind start)
      = st.startFixture kind name start := by
  simp only [step, startHook, hname, Bool.false_eq_true, if_false]

/-- A hook for after all tests finalizes the test first. -/
theorem step_hookStart_of_isAfterAll (hname : isAfterAll name = true) (kind : HookKind)
    (start : Int) (st : Standing) : st.step isAfterAll (.hookStart name kind start)
      = st.finalize.startFixture kind name start := by
  simp only [step, startHook, hname, if_true]

/-- A fixture that starts is nothing to the current test. -/
theorem current_startFixture (kind : HookKind) (name : String) (start : Int) (st : Standing) :
    (st.startFixture kind name start).current = st.current := by
  cases hs : st.scopes <;> simp [startFixture, hs]

/-- Nor is a hook that ends. -/
private theorem current_endHook (e : HookEnding) (st : Standing) :
    (st.endHook e).current = st.current := by
  cases hr : st.running <;> simp [endHook, updateFixture, stopFixture, hr]

/-- A test that ends is what the ending makes of it. -/
private theorem current_endTest (e : TestEnding) (st : Standing) :
    (st.endTest e).current = st.current.map (·.after st.next (.testEnd e)) := by
  rcases hc : st.current with _ | ⟨t, _ | _⟩
  · simp only [endTest, hc, Option.map_none]
  · have hclosed := current_closeSteps hc e.status e.stop t.openSteps.length
    have hended := current_changeTest hclosed .updateTest (·.update (·.ended e))
    simp [endTest, hc, stopTest, hended, Current.after]
  · simp [endTest, hc, Current.after]

/-- A message of a window changes the open test and opens no other. -/
theorem current_step (hm : m.finalizes isAfterAll = false) (st : Standing) :
    (st.step isAfterAll m).current = st.current.map (·.after st.next m) := by
  cases m with
  -- a start finalizes the test
  | suiteStart name isFeature => cases hm
  | testStart name start => cases hm
  | suiteEnd =>
    simp only [step, current_closeScope, Current.after]
    exact Option.map_id'.symm
  -- a test is named only while it has not ended
  | testInfo fullName =>
    rcases hc : st.current with _ | ⟨t, _ | _⟩ <;>
      simp [step, nameTest, changeTest, Current.after, hc]
  | testEnd e => exact current_endTest e st
  | hookStart name kind start =>
    rw [step_hookStart hm, current_startFixture]
    exact Option.map_id'.symm
  | hookEnd e =>
    simp only [step, current_endHook, Current.after]
    exact Option.map_id'.symm
  -- an entry is one change of the open test, if there is one
  | entry e =>
    cases hc : st.current <;> cases e <;>
      simp [step, applyEntry, changeTest, attach, Current.after, hc]

/-- A change of the current test writes nothing. -/
private theorem writtenTests_changeTest (op : Operation) (f : OpenTest → OpenTest) (st : Standing) :
    (st.changeTest op f).writtenTests = st.writtenTests := by
  cases hc : st.current <;> simp [changeTest, hc]

/-- A scope that is closed writes no test. -/
private theorem writtenTests_closeScope (st : Standing) :
    st.closeScope.writtenTests = st.writtenTests := by
  cases hs : st.scopes <;> simp [closeScope, hs]

/-- Nor does a fixture that starts. -/
private theorem writtenTests_startFixture (kind : HookKind) (name : String) (start : Int)
    (st : Standing) :
    (st.startFixture kind name start).writtenTests = st.writtenTests := by
  cases hs : st.scopes <;> simp [startFixture, hs]

/-- Nor do steps that are closed. -/
private theorem writtenTests_closeSteps (status : Status) (stop : Int) (n : Nat) (st : Standing) :
    (st.closeSteps status stop n).writtenTests = st.writtenTests := by
  induction n generalizing st with
  | zero => rfl
  | succ n ih => exact (ih _).trans (writtenTests_changeTest _ _ st)

/-- A test that ends is not written yet. -/
private theorem writtenTests_endTest (e : TestEnding) (st : Standing) :
    (st.endTest e).writtenTests = st.writtenTests := by
  rcases hc : st.current with _ | ⟨t, _ | _⟩
  · simp only [endTest, hc]
  · have hclosed := current_closeSteps hc e.status e.stop t.openSteps.length
    have hended := current_changeTest hclosed .updateTest (·.update (·.ended e))
    simp only [endTest, hc, stopTest, hended, writtenTests_changeTest, writtenTests_closeSteps]
  · simp only [endTest, hc]

/-- A message of a window writes no test. -/
private theorem writtenTests_step (hm : m.finalizes isAfterAll = false) (st : Standing) :
    (st.step isAfterAll m).writtenTests = st.writtenTests := by
  cases m with
  | suiteStart name isFeature => cases hm
  | testStart name start => cases hm
  -- the scope of the suite is written, the test is not
  | suiteEnd => exact writtenTests_closeScope st
  | testInfo fullName =>
    simp only [step, nameTest]
    split
    · exact writtenTests_changeTest _ _ st
    · rfl
  | testEnd e => exact writtenTests_endTest e st
  | hookStart name kind start =>
    rw [step_hookStart hm, writtenTests_startFixture]
  | hookEnd e =>
    cases hr : st.running <;> simp [step, endHook, updateFixture, stopFixture, hr]
  -- entries and hooks leave the written tests alone
  | entry e =>
    cases hc : st.current <;> cases e <;> simp [step, applyEntry, changeTest, attach, hc]

/-! ### Messages that finalize -/

/-- A test that is finalized is written as what it has become. -/
private theorem writtenTests_finalize (st : Standing) :
    st.finalize.writtenTests
      = st.writtenTests ++ st.current.toList.map (·.test.snapshot) := by
  cases hc : st.current with
  | none => simp [finalize, hc]
  | some c =>
    simp [finalize, hc, writeTest, current_closeScope, writtenTests_closeScope]

/-- Scopes that are closed at the end write no test. -/
private theorem writtenTests_closeScopes (scopes : List Scope) (st : Standing) :
    (st.closeScopes scopes).writtenTests = st.writtenTests := by
  induction scopes generalizing st with
  | nil => rfl
  | cons s rest ih => exact (ih _).trans (writtenTests_closeScope st)

/-- At the end the current test is written, and no other. -/
private theorem writtenTests_drain (st : Standing) :
    st.drain.writtenTests = st.writtenTests ++ st.current.toList.map (·.test.snapshot) := by
  rw [drain, writtenTests_closeScopes, writtenTests_finalize]

/-- A message that finalizes begins with that. -/
private theorem moves_finalize_step (hm : m.finalizes isAfterAll = true) (st : Standing) :
    Moves st.finalize (st.step isAfterAll m) := by
  rcases m.cases_of_finalizes hm with ⟨name, isFeature, rfl⟩ | ⟨name, start, rfl⟩
      | ⟨name, kind, start, rfl, hname⟩
  · exact .single (.openScope _)
  · exact .tail (.single (.openScope _)) (.beginTest name start (current_finalize st))
  · rw [step_hookStart_of_isAfterAll hname]
    exact .single (.startFixture _ kind name start)

/-- A message that finalizes the test writes it, and no other. -/
private theorem writtenTests_step_of_finalizes (hm : m.finalizes isAfterAll = true)
    (st : Standing) :
    (st.step isAfterAll m).writtenTests
      = st.writtenTests ++ st.current.toList.map (·.test.snapshot) := by
  rw [← writtenTests_finalize]
  rcases m.cases_of_finalizes hm with ⟨name, isFeature, rfl⟩ | ⟨name, start, rfl⟩
      | ⟨name, kind, start, rfl, hname⟩
  · rfl
  · rfl
  · rw [step_hookStart_of_isAfterAll hname, writtenTests_startFixture]

/-- What follows a window happens after the test has been finalized. -/
private theorem moves_finalize_drain (isAfterAll : String → Bool) (log : List Message)
    (st : Standing) :
    Moves (st.steps isAfterAll (window isAfterAll log)).finalize
      (st.steps isAfterAll log).drain := by
  obtain ⟨rest, heq, hrest⟩ := exists_eq_window_append isAfterAll log
  have hsteps : st.steps isAfterAll log
      = (st.steps isAfterAll (window isAfterAll log)).steps isAfterAll rest := by
    rw [← steps_append, ← heq]
  rw [hsteps]
  generalize st.steps isAfterAll (window isAfterAll log) = mid
  cases rest with
  -- the log is one window, and the drain goes on from its finalization
  | nil => exact moves_closeScopes _ _
  -- the message after the window finalizes first
  | cons m rest =>
    have hfirst := moves_finalize_step (hrest m rfl) mid
    exact (hfirst.trans (moves_steps isAfterAll rest _)).trans (moves_drain _)

/-! ### Written tests -/

/-- A test is written as a run of the log tells it: some standing has opened it, its window has gone
by, and it has then been finalized. -/
structure Recounts (isAfterAll : String → Bool) (final : Standing) (run : TestRun)
    (r : TestResult) (st : Standing) (c : Current) : Prop where
  sound : st.Sound
  tracked : st.Tracked
  opened : st.current = some (run.opened r.handle)
  calls : callsOn r.handle st.calls = [.startTest]
  window : ∀ m ∈ run.window, m.finalizes isAfterAll = false
  closed : (st.steps isAfterAll run.window).current = some c
  written : r = c.test.snapshot
  final : Moves (st.steps isAfterAll run.window).finalize final

/-- A window leaves the open test open, under its handle. -/
private theorem handle_current_steps (log : List Message)
    (hlog : ∀ m ∈ log, m.finalizes isAfterAll = false) (st : Standing) :
    (st.steps isAfterAll log).current.map (·.handle) = st.current.map (·.handle) := by
  induction log generalizing st with
  | nil => rfl
  | cons m rest ih =>
    obtain ⟨hm, hrest⟩ := List.forall_mem_cons.1 hlog
    rw [steps_cons, ih hrest, current_step hm, Option.map_map]
    congr 1
    funext c
    exact c.handle_after st.next m

/-- In a window that belongs to no test there is none. -/
private theorem current_steps_of_none {log : List Message}
    (hlog : ∀ m ∈ log, m.finalizes isAfterAll = false) (hc : st.current = none) :
    (st.steps isAfterAll log).current = none := by
  have hhandle := handle_current_steps log hlog st
  rwa [hc, Option.map_none, Option.map_eq_none_iff] at hhandle

/-- In the window of a test it stays the current one. -/
private theorem current_steps_of_some {log : List Message} {c : Current}
    (hlog : ∀ m ∈ log, m.finalizes isAfterAll = false) (hc : st.current = some c) :
    ∃ c', (st.steps isAfterAll log).current = some c' ∧ c'.handle = c.handle := by
  have hhandle := handle_current_steps log hlog st
  rwa [hc, Option.map_some, Option.map_eq_some_iff] at hhandle

/-- The start of a test opens it under a handle with which nothing else has been called. -/
private theorem callsOn_testStart (isAfterAll : String → Bool) (name : String) (start : Int)
    (hs : st.Sound) (ht : st.Tracked) :
    ∃ h, (st.step isAfterAll (.testStart name start)).current
        = some ⟨⟨{ handle := h, name := name, start := start }, []⟩, false⟩
      ∧ callsOn h (st.step isAfterAll (.testStart name start)).calls = [.startTest] := by
  have hmoves : Moves st st.finalize.openScope := (moves_finalize st).tail (.openScope _)
  have hnew := (Moves.tracked hmoves hs ht).undrawn st.finalize.openScope.next
    (Handle.not_isBefore_drawn _)
  refine ⟨st.finalize.openScope.next, rfl, ?_⟩
  simp only [step, beginTest, callsOn_snoc_self, hnew, List.nil_append]

/-- A replay writes the test that is open, then one test for each start, in order: each as its
window tells it. -/
theorem exists_writtenTests (isAfterAll : String → Bool) (log : List Message) (hs : st.Sound)
    (ht : st.Tracked) :
    ∃ tests, (st.steps isAfterAll log).drain.writtenTests
        = st.writtenTests
          ++ (st.steps isAfterAll (window isAfterAll log)).current.toList.map (·.test.snapshot)
          ++ tests
      ∧ List.Forall₂
          (fun run r => ∃ st' c, Recounts isAfterAll (st.steps isAfterAll log).drain run r st' c)
          (testRuns isAfterAll log) tests := by
  -- by induction on the log; what follows a message happens after its step, so the hypothesis is
  -- about the standing that the step leaves
  induction log generalizing st with
  | nil => exact ⟨[], by simp [window, writtenTests_drain], .nil⟩
  | cons m rest ih =>
    have hmoves := moves_step isAfterAll m st
    have hs' := Moves.sound hmoves hs
    have ht' := Moves.tracked hmoves hs ht
    obtain ⟨tests, hwritten, htests⟩ := ih hs' ht'
    cases hm : m.finalizes isAfterAll with
    | false =>
      -- the message belongs to the window of the test that is open
      rw [window_cons_of_not_finalizes hm]
      refine ⟨tests, by rw [steps_cons, hwritten, writtenTests_step hm, steps_cons], ?_⟩
      cases m <;> first | exact htests | cases hm
    | true =>
      rw [window_cons_of_finalizes hm, steps_cons, hwritten, writtenTests_step_of_finalizes hm]
      have hwindow : ∀ m ∈ window isAfterAll rest, m.finalizes isAfterAll = false :=
        fun _ => finalizes_of_mem_window
      rcases m.cases_of_finalizes hm with ⟨name, isFeature, rfl⟩ | ⟨name, start, rfl⟩
          | ⟨name, kind, start, rfl, hname⟩
      · have hnone : (st.step isAfterAll (.suiteStart name isFeature)).current = none :=
          current_finalize st
        exact ⟨tests, by simp [current_steps_of_none hwindow hnone], htests⟩
      · -- the new test goes through its window and is finalized where that ends
        obtain ⟨h, hopened, hcalls⟩ := callsOn_testStart isAfterAll name start hs ht
        obtain ⟨c, hc, hh⟩ := current_steps_of_some hwindow hopened
        have hhandle : c.test.snapshot.handle = h := (c.test.handle_snapshot).trans hh
        have hrecounts : Recounts isAfterAll
            ((st.step isAfterAll (.testStart name start)).steps isAfterAll rest).drain
            ⟨name, start, window isAfterAll rest⟩ c.test.snapshot
            (st.step isAfterAll (.testStart name start)) c :=
          { sound := hs'
            tracked := ht'
            opened := hhandle ▸ hopened
            calls := hhandle ▸ hcalls
            window := hwindow
            closed := hc
            written := rfl
            final := moves_finalize_drain isAfterAll rest _ }
        exact ⟨c.test.snapshot :: tests, by simp [hc], .cons ⟨_, c, hrecounts⟩ htests⟩
      · have hnone : (st.step isAfterAll (.hookStart name kind start)).current = none := by
          rw [step_hookStart_of_isAfterAll hname, current_startFixture, current_finalize]
        exact ⟨tests, by simp [current_steps_of_none hwindow hnone], htests⟩

/-- A whole replay writes one test for each start in the log, in order: each as its window tells
it. -/
theorem forall₂_recounts (b : Backend) (isAfterAll : String → Bool) (log : List Message) :
    List.Forall₂
      (fun run r => ∃ st c,
        Recounts isAfterAll ((initial b).steps isAfterAll log).drain run r st c)
      (testRuns isAfterAll log) ((initial b).replay isAfterAll log).writtenTests := by
  obtain ⟨tests, hwritten, htests⟩ :=
    exists_writtenTests isAfterAll log (sound_initial b) (tracked_initial b)
  -- before the first start no test is open, so the first window writes none
  have hnone : ((initial b).steps isAfterAll (window isAfterAll log)).current = none :=
    current_steps_of_none (fun _ => finalizes_of_mem_window) rfl
  have hreplay : ((initial b).replay isAfterAll log).writtenTests
      = ((initial b).steps isAfterAll log).drain.writtenTests :=
    congrArg (·.writtenTests) (core_replay isAfterAll log (initial b))
  rw [hnone] at hwritten
  rw [hreplay, hwritten]
  exact htests

end Standing

end Chronicle
