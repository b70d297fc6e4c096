import Chronicle.Proofs.Replay.Window
import Mathlib.Data.List.Induction

/-!
# What a log tells about a test

`TestRun.Tells` reads a written test off the window of its start alone: which labels and parameters
it has, what it is called, and how it ended. A replay writes just these tests, since each message of
a window does to the open test what it adds to the reading.
-/
namespace Chronicle

/-! ### Reading messages -/

namespace Message

/-- The ending that a message tells. -/
def ending? : Message → Option TestEnding
  | .testEnd e => some e
  | _ => none

/-- The full name that a message gives. -/
def fullName? : Message → Option String
  | .testInfo fullName => some fullName
  | _ => none

/-- The labels that a message gives. -/
def labels : Message → List Label
  | .entry (.metadata labels _) => labels
  | _ => []

/-- Only the end of a test is an ending. -/
theorem eq_testEnd {m : Message} {e : TestEnding} (hm : m.ending? = some e) : m = .testEnd e := by
  cases m <;> cases hm
  rfl

/-- The parameters that a message gives. -/
def parameters : Message → List Parameter
  | .entry (.metadata _ parameters) => parameters
  | _ => []

end Message

/-- The duration of a test with this ending: the one that is told, or else the time that has
passed. -/
def TestEnding.durationFrom (e : TestEnding) (start : Int) : Int :=
  e.duration.getD (max 0 (e.stop - start))

/-- The stage of a test with this ending: what is told, except that nothing goes on running. -/
def TestEnding.finalStage (e : TestEnding) : Stage :=
  match e.stage with
  | none | some .running => .finished
  | some stage => stage

/-- The end of what has not stopped before. -/
private theorem stoppedDuration_some (e : TestEnding) (start : Int) (known : Option Int) :
    stoppedDuration start (some e.stop) e.duration known = some (e.durationFrom start) := by
  cases hd : e.duration <;> simp [stoppedDuration, TestEnding.durationFrom, hd]

/-- Without a stage a test that ends is stopped as it is. -/
private theorem stoppedStage_getD (e : TestEnding) :
    stoppedStage (e.stage.getD .running) = e.finalStage := by
  rcases hs : e.stage with _ | (_ | _ | _ | _ | _) <;>
    simp [stoppedStage, TestEnding.finalStage, hs]

namespace TestRun

/-- The first ending in the window. -/
def ending (run : TestRun) : Option TestEnding :=
  run.window.findSome? (·.ending?)

/-- The messages before the first ending. -/
def beforeEnding (run : TestRun) : List Message :=
  run.window.takeWhile (·.ending?.isNone)

/-- The last full name that is given before the first ending. -/
def fullName (run : TestRun) : Option String :=
  (run.beforeEnding.filterMap (·.fullName?)).getLast?

/-- The run with one more message in its window. -/
def snoc (run : TestRun) (m : Message) : TestRun :=
  { run with window := run.window ++ [m] }

/-- Whether a record is that of a test with this window, but for its steps and attachments. -/
structure Tells (run : TestRun) (r : TestResult) : Prop where
  name : r.name = run.name
  start : r.start = run.start
  labels : r.labels = run.window.flatMap (·.labels)
  parameters : r.parameters = run.window.flatMap (·.parameters)
  fullName : r.fullName = run.fullName
  status : r.status = run.ending.map (·.status)
  details : r.details = run.ending.bind (·.details)
  stop : r.stop = run.ending.map (·.stop)
  duration : r.duration = run.ending.map (·.durationFrom run.start)
  stage : r.stage = run.ending.elim .running (·.finalStage)

/-! ### One more message -/

/-- The first ending counts, so a message ends a run only if nothing has before. -/
theorem ending_snoc (run : TestRun) (m : Message) :
    (run.snoc m).ending = run.ending.or m.ending? := by
  simp [ending, snoc, List.findSome?_append]

/-- A full name counts as long as no ending has been read. -/
private theorem fullName_snoc (run : TestRun) (m : Message) :
    (run.snoc m).fullName
      = if run.ending.isSome then run.fullName else m.fullName?.or run.fullName := by
  cases hr : run.ending with
  | none =>
    -- everything so far stands before the ending, and so does the new message if it is none
    have hall : ∀ m' ∈ run.window, m'.ending?.isNone := by
      simpa [ending, List.findSome?_eq_none_iff] using hr
    have hbefore : run.beforeEnding = run.window := List.takeWhile_eq_self_iff.2 hall
    have hsnoc : (run.snoc m).beforeEnding
        = run.window ++ [m].takeWhile (·.ending?.isNone) := List.takeWhile_append_of_pos hall
    simp only [fullName, hsnoc, hbefore, List.filterMap_append]
    cases m <;> simp [Message.ending?, Message.fullName?]
  | some e =>
    -- what stands before the ending is shorter than the window, so the new message is not reached
    obtain ⟨m', hm', he⟩ := List.exists_of_findSome?_eq_some hr
    have hlength : run.beforeEnding.length ≠ run.window.length := fun hlength => by
      have hall := List.takeWhile_eq_self_iff.1 ((List.takeWhile_prefix _).eq_of_length hlength)
      simpa [he] using hall m' hm'
    have hbefore : (run.snoc m).beforeEnding = run.beforeEnding := by
      simp only [beforeEnding, snoc, List.takeWhile_append]
      exact if_neg hlength
    simp only [fullName, hbefore, Option.isSome_some, if_true]

/-- The labels of one more message come last. -/
private theorem labels_snoc (run : TestRun) (m : Message) :
    (run.snoc m).window.flatMap (·.labels) = run.window.flatMap (·.labels) ++ m.labels := by
  simp [snoc]

/-- So do its parameters. -/
private theorem parameters_snoc (run : TestRun) (m : Message) :
    (run.snoc m).window.flatMap (·.parameters)
      = run.window.flatMap (·.parameters) ++ m.parameters := by
  simp [snoc]

end TestRun

/-! ### Steps and attachments aside -/

/-- The record without what happened inside the test. -/
def TestResult.outline (r : TestResult) : TestResult :=
  { r with steps := [], attachments := [] }

/-- What is told of a test is told of every test with the same outline. -/
theorem TestRun.Tells.congr {run : TestRun} {r r' : TestResult} (h : run.Tells r)
    (hr : r'.outline = r.outline) : run.Tells r' := by
  -- equal outlines are equal in each field that the window tells
  simp only [TestResult.outline, TestResult.mk.injEq, and_true] at hr
  obtain ⟨-, hname, hstart, hfullName, hstop, hduration, hstatus, hdetails, hstage, hlabels,
    hparameters⟩ := hr
  exact
    { name := hname.trans h.name
      start := hstart.trans h.start
      labels := hlabels.trans h.labels
      parameters := hparameters.trans h.parameters
      fullName := hfullName.trans h.fullName
      status := hstatus.trans h.status
      details := hdetails.trans h.details
      stop := hstop.trans h.stop
      duration := hduration.trans h.duration
      stage := hstage.trans h.stage }

namespace OpenTest

/-- The outline of a test is shown as it is. -/
private theorem outline_snapshot (t : OpenTest) : t.snapshot.outline = t.result.outline := by
  obtain ⟨r, _ | ⟨s, rest⟩⟩ := t <;> rfl

/-- A step that is closed changes no outline. -/
private theorem outline_closeStep (t : OpenTest) (status : Status) (stop : Int)
    (details : Option StatusDetails) :
    (t.closeStep status stop details).result.outline = t.result.outline := by
  obtain ⟨r, _ | ⟨s, _ | ⟨outer, rest⟩⟩⟩ := t <;> rfl

/-- Nor do several. -/
private theorem outline_closeSteps (status : Status) (stop : Int) (n : Nat) (t : OpenTest) :
    (t.closeSteps status stop n).result.outline = t.result.outline := by
  induction n generalizing t with
  | zero => rfl
  | succ n ih => exact (ih _).trans (t.outline_closeStep status stop none)

/-- Nor does an attachment. -/
private theorem outline_attach (t : OpenTest) (ref : AttachmentRef) :
    (t.attach ref).result.outline = t.result.outline := by
  obtain ⟨r, _ | ⟨s, rest⟩⟩ := t <;> rfl

end OpenTest

/-- The record after a message that tells no ending, its steps and attachments aside. -/
def TestResult.heard (r : TestResult) (ended : Bool) (m : Message) : TestResult :=
  { r with
    labels := r.labels ++ m.labels
    parameters := r.parameters ++ m.parameters
    fullName := if ended then r.fullName else m.fullName?.or r.fullName }

/-- The open test hears a message in this way. -/
private theorem Current.outline_after (next : Handle) (c : Current) {m : Message}
    (hm : m.ending? = none) :
    (c.after next m).test.result.outline = (c.test.result.heard c.ended m).outline := by
  obtain ⟨⟨r, opened⟩, ended⟩ := c
  -- only names and descriptions are heard in the outline
  have hsame : ∀ m : Message, m.labels = [] → m.parameters = [] → m.fullName? = none →
      (r.heard ended m).outline = r.outline := fun m hlabels hparameters hname => by
    simp [TestResult.heard, TestResult.outline, hlabels, hparameters, hname]
  cases m with
  | suiteStart | suiteEnd | testStart | hookStart | hookEnd => exact (hsame _ rfl rfl rfl).symm
  | testInfo fullName =>
    cases ended <;>
      simp [Current.after, TestResult.heard, TestResult.outline, Message.labels,
        Message.parameters, Message.fullName?, OpenTest.update]
  | testEnd e => cases hm
  | entry e =>
    cases e with
    -- steps and attachments do not belong to the outline
    | stepStart name start => exact (hsame _ rfl rfl rfl).symm
    | stepStop status stop details =>
      exact (OpenTest.outline_closeStep _ _ _ _).trans (hsame _ rfl rfl rfl).symm
    | metadata labels parameters =>
      simp [Current.after, TestResult.heard, TestResult.outline, Message.labels,
        Message.parameters, Message.fullName?, OpenTest.describe]
    | attachment file => exact (OpenTest.outline_attach _ _).trans (hsame _ rfl rfl rfl).symm

/-- Only an ending ends a test. -/
theorem Current.ended_after (next : Handle) (c : Current) {m : Message} (hm : m.ending? = none) :
    (c.after next m).ended = c.ended := by
  cases m with
  | suiteStart | suiteEnd | testStart | hookStart | hookEnd => rfl
  | testInfo fullName =>
    simp only [Current.after]
    split <;> rfl
  | testEnd e => cases hm
  | entry e => cases e <;> rfl

namespace TestRun

variable {run : TestRun} {r : TestResult}

/-- A message that is no ending adds to what is told what it does to the test. -/
theorem Tells.snoc (h : run.Tells r) {m : Message} (hm : m.ending? = none) :
    (run.snoc m).Tells (r.heard run.ending.isSome m) := by
  -- whether the test has ended decides if it can still be named
  have hending : (run.snoc m).ending = run.ending := by rw [ending_snoc, hm, Option.or_none]
  exact
    { name := h.name
      start := h.start
      labels := by rw [labels_snoc, ← h.labels, TestResult.heard]
      parameters := by rw [parameters_snoc, ← h.parameters, TestResult.heard]
      fullName := by rw [fullName_snoc, ← h.fullName, TestResult.heard]
      status := hending ▸ h.status
      details := hending ▸ h.details
      stop := hending ▸ h.stop
      duration := hending ▸ h.duration
      stage := hending ▸ h.stage }

/-- The first ending is the one that counts. -/
private theorem Tells.snoc_testEnd (h : run.Tells r) (e : TestEnding) :
    (run.snoc (.testEnd e)).Tells
      (if run.ending.isSome then r else (r.ended e).stopped (some e.stop) e.duration) := by
  have hlabels : (run.snoc (.testEnd e)).window.flatMap (·.labels)
      = run.window.flatMap (·.labels) := (labels_snoc run _).trans (List.append_nil _)
  have hparameters : (run.snoc (.testEnd e)).window.flatMap (·.parameters)
      = run.window.flatMap (·.parameters) := (parameters_snoc run _).trans (List.append_nil _)
  have hname : (run.snoc (.testEnd e)).fullName = run.fullName :=
    (fullName_snoc run _).trans (ite_self _)
  -- only the ending is told by this message
  have hending : (run.snoc (.testEnd e)).ending = run.ending.or (some e) := ending_snoc run _
  cases hr : run.ending with
  | some e' =>
    -- the test has ended before: the record stays as it is
    rw [hr, Option.some_or, ← hr] at hending
    exact
      { name := h.name
        start := h.start
        labels := hlabels ▸ h.labels
        parameters := hparameters ▸ h.parameters
        fullName := hname ▸ h.fullName
        status := hending ▸ h.status
        details := hending ▸ h.details
        stop := hending ▸ h.stop
        duration := hending ▸ h.duration
        stage := hending ▸ h.stage }
  | none =>
    -- what the ending leaves open is what the record has had from its start
    rw [hr, Option.none_or] at hending
    have hdetails : r.details = none := h.details.trans (by rw [hr, Option.bind_none])
    have hstage : r.stage = .running := h.stage.trans (by rw [hr, Option.elim_none])
    exact
      { name := h.name
        start := h.start
        labels := hlabels ▸ h.labels
        parameters := hparameters ▸ h.parameters
        fullName := hname ▸ h.fullName
        status := by rw [hending]; rfl
        details := by simp [hending, TestResult.stopped, TestResult.ended, hdetails]
        stop := by rw [hending]; rfl
        duration := by
          rw [hending, Option.map_some]
          exact (stoppedDuration_some e r.start r.duration).trans (by rw [h.start]; rfl)
        stage := by
          rw [hending, Option.elim_some, ← stoppedStage_getD, ← hstage]
          rfl }

/-- What is told of the open test is told of it after one more message. -/
theorem Tells.after {c : Current} (h : run.Tells c.test.result)
    (hended : c.ended = run.ending.isSome) (next : Handle) (m : Message) :
    (run.snoc m).Tells (c.after next m).test.result
      ∧ (c.after next m).ended = (run.snoc m).ending.isSome := by
  rw [ending_snoc]
  -- a message that ends no test is told at once
  cases he : m.ending? with
  | none =>
    refine ⟨(h.snoc he).congr (hended ▸ c.outline_after next he), ?_⟩
    rw [Option.or_none, ← hended]
    exact c.ended_after next he
  | some e =>
    -- the message is the end of a test
    obtain rfl : m = .testEnd e := Message.eq_testEnd he
    have hheard := h.snoc_testEnd e
    rw [← hended] at hheard
    cases hc : c.ended with
    | true =>
      -- a second ending is passed over
      have hafter : c.after next (.testEnd e) = c := by simp [Current.after, hc]
      rw [hc, if_pos rfl] at hheard
      rw [hafter, hc]
      exact ⟨hheard, by simp⟩
    | false =>
      -- the steps that are closed first do not belong to the outline
      rw [hc, if_neg Bool.false_ne_true] at hheard
      have hafter : c.after next (.testEnd e)
          = ⟨((c.test.closeSteps e.status e.stop c.test.openSteps.length).update
              (·.ended e)).update (·.stopped (some e.stop) e.duration), true⟩ := by
        simp [Current.after, hc]
      rw [hafter]
      have houtline := c.test.outline_closeSteps e.status e.stop c.test.openSteps.length
      have hended := congrArg
        (fun r : TestResult => ((r.ended e).stopped (some e.stop) e.duration).outline) houtline
      exact ⟨hheard.congr hended, by simp⟩

end TestRun

namespace Standing

variable {st : Standing} {isAfterAll : String → Bool}

/-- While a window goes by, the open test is as the messages so far tell it. -/
private theorem tells_steps {run : TestRun} {h : Handle} (hc : st.current = some (run.opened h))
    {log : List Message} (hlog : ∀ m ∈ log, m.finalizes isAfterAll = false) :
    ∃ c, (st.steps isAfterAll log).current = some c
      ∧ c.ended = (TestRun.ending ⟨run.name, run.start, log⟩).isSome
      ∧ TestRun.Tells ⟨run.name, run.start, log⟩ c.test.result := by
  -- the last message is taken off: what the log tells is read from its beginning
  induction log using List.reverseRecOn with
  | nil => exact ⟨_, hc, rfl, ⟨rfl, rfl, rfl, rfl, rfl, rfl, rfl, rfl, rfl, rfl⟩⟩
  | append_singleton log m ih =>
    obtain ⟨c, hsteps, hended, htells⟩ := ih fun m hm => hlog m (List.mem_append_left _ hm)
    have hm : m.finalizes isAfterAll = false := hlog m (by simp)
    have hafter := htells.after hended (st.steps isAfterAll log).next m
    refine ⟨_, ?_, hafter.2, hafter.1⟩
    rw [steps_snoc, current_step hm, hsteps, Option.map_some]

/-- A test that is recounted by its run is told by it, by induction on the messages. -/
theorem Recounts.tells {final : Standing} {run : TestRun} {r : TestResult} {c : Current}
    (h : Recounts isAfterAll final run r st c) : run.Tells r := by
  obtain ⟨c', hc', -, htells⟩ := tells_steps h.opened h.window
  obtain rfl : c' = c := Option.some.inj (hc'.symm.trans h.closed)
  rw [h.written]
  exact htells.congr c'.test.outline_snapshot

end Standing

/-- The replay of any log into a report between replays succeeds and writes one test for each start
in the log, in order, each as the window of its start tells it. -/
theorem Machine.tells_of_replay {b : Backend} (hb : b.BetweenReplays) (isAfterAll : String → Bool)
    (synchronised : Bool) (contextId : String) (log : List Message) :
    ∃ p tests, Runs (Backend.machine isAfterAll synchronised).replay
        ⟨{ contextId := contextId, log := log }, b⟩ () p
      ∧ p.world.writtenTests = b.writtenTests ++ tests
      ∧ List.Forall₂ TestRun.Tells (testRuns isAfterAll log) tests := by
  refine ⟨_, _, runs_replay hb.idle isAfterAll synchronised contextId log, rfl, ?_⟩
  refine (Standing.forall₂_recounts b isAfterAll log).imp ?_
  rintro run r ⟨st, c, h⟩
  exact h.tells

/-- A test that is named and described both before its ending and after it. -/
theorem Machine.tells_of_late_messages :
    (Backend.inMemory {}).BetweenReplays ∧ ∃ p r,
      Runs (Backend.machine (fun _ => false) true).replay
        ⟨{ contextId := "main"
           log := [.testStart "a" 5, .testInfo "m.a", .testEnd { status := .passed, stop := 3 },
             .testInfo "m.b", .entry (.metadata [⟨"tag", "late"⟩] [])] },
          .inMemory {}⟩ () p
      ∧ p.world.writtenTests = [r]
      ∧ r.fullName = some "m.a"
      ∧ r.labels = [⟨"tag", "late"⟩]
      ∧ r.duration = some 0
      ∧ r.stage = .finished := by
  have hb := Backend.BetweenReplays.fresh {}
  obtain ⟨p, tests, hruns, hwritten, htests⟩ :=
    tells_of_replay hb (fun _ => false) true "main"
      [.testStart "a" 5, .testInfo "m.a", .testEnd { status := .passed, stop := 3 },
        .testInfo "m.b", .entry (.metadata [⟨"tag", "late"⟩] [])]
  -- there is one test, and so one record
  cases htests with
  | cons htells hrest =>
    cases hrest
    exact ⟨hb, p, _, hruns, hwritten, htells.fullName, htells.labels, htells.duration,
      htells.stage⟩

end Chronicle
