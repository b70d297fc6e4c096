import Chronicle.Proofs.Session.Recording
import Mathlib.Data.List.Perm.Basic

/-!
# Outcomes that are heard

A recorder looks at what is pending in its log, while a replay looks at whether it has a test open.
The two differ after a suite or a hook that runs after all tests has started inside a test: the test
is still pending, but the replay has finalized it. An outcome that is reported then is lost, and no
other one is. So the outcomes in a report are those of the calls that have been heard:
`Recorder.perm_outcomes`.
-/
namespace Chronicle

/-- A status, and what is said about it. -/
abbrev Outcome := Status × Option StatusDetails

/-- What an ending says about its test. -/
def TestEnding.outcome (e : TestEnding) : Outcome :=
  (e.status, e.details)

/-- The outcome of a test that has one. -/
def TestResult.outcome (r : TestResult) : Option Outcome :=
  r.status.map fun status => (status, r.details)

/-- A written test has the outcome that its window tells. -/
theorem TestRun.Tells.outcome {run : TestRun} {r : TestResult} (h : run.Tells r) :
    r.outcome = run.ending.map (·.outcome) := by
  rw [TestResult.outcome, h.status, h.details]
  cases run.ending <;> rfl

private theorem filterMap_outcome {runs : List TestRun} {tests : List TestResult}
    (h : List.Forall₂ TestRun.Tells runs tests) :
    tests.filterMap (·.outcome) = (runs.filterMap (·.ending)).map (·.outcome) := by
  induction h with
  | nil => rfl
  | @cons run r runs tests hr hrest ih =>
    cases he : run.ending <;> simp [hr.outcome, he, ih]

/-! ### What is heard in a log -/

section

variable {isAfterAll : String → Bool} {log ms : List Message}

private theorem Message.ending?_of_isInner (m : Message) (hm : m.isInner = true) :
    m.ending? = none := by
  cases m with
  | suiteStart | suiteEnd | testStart | testEnd => cases hm
  | testInfo | hookStart | hookEnd | entry => rfl

private theorem endings_append_of_no_ending (hms : ∀ m ∈ ms, m.ending? = none) :
    endings isAfterAll (log ++ ms) = endings isAfterAll log := by
  induction ms using List.reverseRecOn with
  | nil => rw [List.append_nil]
  | append_singleton ms m ih =>
    obtain ⟨hms, hm⟩ := List.forall_mem_append.1 hms
    rw [← List.append_assoc, endings_snoc, ih hms, hm m List.mem_cons_self]
    simp

/-- After the start of a test it is open and pending. -/
private theorem Recorder.startMessages_opens (isAfterAll : String → Bool) (log : List Message)
    (r : Recorder) (name : String) (start : Int) :
    testIsOpen isAfterAll (log ++ r.startMessages name start) = true
      ∧ Chronicle.isPending .test (log ++ r.startMessages name start) = true
      ∧ endings isAfterAll (log ++ r.startMessages name start) = endings isAfterAll log := by
  have hsplit : log ++ r.startMessages name start
      = log ++ [.testStart name start] ++ [.entry (.metadata (r.testLabels
        ++ ((Chronicle.currentFeature r.log).map LabelName.feature.label).toList) [])] := by
    simp [Recorder.startMessages]
  rw [hsplit, testIsOpen_snoc, testIsOpen_snoc, isPending_snoc, isPending_snoc,
    endings_snoc, endings_snoc]
  simp [Message.finalizes, Message.kind, TestEntry.kind, Span.opens, Span.closes, Message.ending?]

end

/-! ### What is heard of a call -/

namespace Recorder

/-- Whether a replay of the log of the active context has a test open at its end. -/
def hasOpenTest (isAfterAll : String → Bool) (r : Recorder) : Bool :=
  testIsOpen isAfterAll r.log

namespace Call

/-- The outcome of a test that a call reports. -/
def outcome? : Call → Option Outcome
  | .endTest status _ _ _ details | .failTest _ status details _ _ _ => some (status, details)
  | .passTest .. => some (.passed, none)
  | .skipTest .. => some (.skipped, none)
  | .endHook _ (some _) .. => some (.broken, none)
  | _ => none

/-- Whether there is a test for the outcome that a call reports. A test that fails or is skipped has
one unless it is pending and not open. A plain end needs one that is both. A hook that fails gets
one of its own, which must not be finalized by the start of the hook. -/
def isHeard (isAfterAll : String → Bool) (r : Recorder) : Call → Bool
  | .failTest .. | .skipTest .. => r.hasOpenTest isAfterAll || !r.hasPending .test
  | .endHook name .. => r.breaksHook && !isAfterAll name
  | _ => r.hasOpenTest isAfterAll && r.hasPending .test

/-- The outcome that is heard of a call, if there is one. -/
def heard (isAfterAll : String → Bool) (r : Recorder) (call : Call) : List Outcome :=
  if call.isHeard isAfterAll r then call.outcome?.toList else []

variable {isAfterAll : String → Bool} {r : Recorder}

/-- An end is heard when a test is open and pending. -/
private theorem endings_end (e : TestEnding) :
    (endings isAfterAll (r.log ++ [.testEnd e])).map (·.outcome)
      = (endings isAfterAll r.log).map (·.outcome)
        ++ if r.hasOpenTest isAfterAll && r.hasPending .test then [e.outcome] else [] := by
  rw [endings_snoc, List.map_append]
  change _ ++ List.map _ (if r.hasOpenTest isAfterAll && r.hasPending .test then _ else _) = _
  split <;> rfl

/-- The end of a test is heard unless it is pending and not open, when it is started first if it is
not pending. -/
private theorem endings_start_and_end (name : String) (start : Int) (e e' : TestEnding)
    (he : e.outcome = e'.outcome) :
    (endings isAfterAll (r.log ++ if r.hasPending .test then [.testEnd e]
        else r.startMessages name start ++ [.testEnd e'])).map (·.outcome)
      = (endings isAfterAll r.log).map (·.outcome)
        ++ if r.hasOpenTest isAfterAll || !r.hasPending .test then [e.outcome] else [] := by
  cases hp : r.hasPending .test with
  | true =>
    rw [if_pos rfl, endings_end, hp]
    simp
  | false =>
    obtain ⟨hopen, hpending, hendings⟩ := startMessages_opens isAfterAll r.log r name start
    rw [if_neg Bool.false_ne_true, ← List.append_assoc, endings_snoc, hopen, hpending, hendings]
    simp [Message.ending?, he]

/-- The end of a hook that fails is heard unless its start finalizes the test. -/
private theorem endings_brokenHook (name : String) (kind : HookKind) (start start' : Int)
    (h : HookEnding) (e : TestEnding) :
    (endings isAfterAll (r.log ++ (r.startMessages name start
        ++ [.hookStart name kind start', .hookEnd h, .testEnd e]))).map (·.outcome)
      = (endings isAfterAll r.log).map (·.outcome)
        ++ if isAfterAll name then [] else [e.outcome] := by
  obtain ⟨hopen, hpending, hendings⟩ := startMessages_opens isAfterAll r.log r name start
  have hsplit : r.log ++ (r.startMessages name start
        ++ [.hookStart name kind start', .hookEnd h, .testEnd e])
      = r.log ++ r.startMessages name start ++ [.hookStart name kind start'] ++ [.hookEnd h]
        ++ [.testEnd e] := by simp
  rw [hsplit, endings_snoc, endings_snoc, endings_snoc, hendings]
  simp only [testIsOpen_snoc, isPending_snoc, hopen, hpending]
  cases hname : isAfterAll name <;>
    simp [Message.finalizes, Message.kind, Span.opens, Span.closes, Message.ending?, hname]

private theorem heard_of_outcome?_eq_none {call : Call} (houtcome : call.outcome? = none) :
    call.heard isAfterAll r = [] := by
  rw [heard, houtcome, Option.toList_none, ite_self]

/-- No outcome is heard of a call that ends no test. -/
private theorem heard_of_isInner {call : Call} (hcall : call.isInner r = true) :
    call.heard isAfterAll r = [] := by
  cases call with
  -- the end of a hook is heard only if it breaks
  | endHook name error =>
    cases error with
    | none => exact heard_of_outcome?_eq_none rfl
    | some details =>
      have hbreaks : r.breaksHook = false := by simpa [isInner] using hcall
      simp [heard, isHeard, hbreaks]
  | startSuite | endSuite | startTest | endTest | passTest | failTest | skipTest => cases hcall
  | useContext | session | addTestInfo | addLabels | addParameters | markRetried | startStep
  | endStep | startHook | attach | attachText => exact heard_of_outcome?_eq_none rfl

/-- What a call adds to the log makes its outcome heard. -/
private theorem endings_messages (isAfterAll : String → Bool) (call : Call) (r : Recorder) :
    (endings isAfterAll (r.log ++ call.messages r)).map (·.outcome)
      = (endings isAfterAll r.log).map (·.outcome) ++ call.heard isAfterAll r := by
  -- inner calls end no test
  by_cases hinner : call.isInner r = true
  · rw [heard_of_isInner hinner, List.append_nil, endings_append_of_no_ending]
    intro m hm
    exact m.ending?_of_isInner (isInner_of_mem_messages hinner m hm)
  cases call with
  | startSuite | endSuite =>
    rw [messages, endings_append_of_no_ending (List.forall_mem_singleton.2 rfl),
      heard_of_outcome?_eq_none rfl, List.append_nil]
  | startTest name start =>
    rw [messages, (startMessages_opens isAfterAll r.log r name _).2.2,
      heard_of_outcome?_eq_none rfl, List.append_nil]
  -- an ending is heard if a test is pending
  | endTest status stage stop duration details => exact endings_end _
  | passTest stop duration => exact endings_end _
  -- a failure and a skip start the missing test first
  | failTest name status details start stop duration =>
    exact endings_start_and_end name (r.timeAfter 0 start) _ _ rfl
  | skipTest name start =>
    exact endings_start_and_end (name.getD "") (r.timeAfter 0 start) _ _ rfl
  | endHook name error kind start stop duration =>
    -- the hook has failed and breaks
    cases error with
    | none => exact (hinner rfl).elim
    | some details =>
      have hbreaks : r.breaksHook = true := by simpa [isInner] using hinner
      rw [messages_endHook_of_breaks hbreaks, endings_brokenHook]
      cases hname : isAfterAll name <;>
        simp [heard, isHeard, hbreaks, hname, outcome?, TestEnding.outcome]
  | useContext | session | addTestInfo | addLabels | addParameters | markRetried | startStep
  | endStep | startHook | attach | attachText => exact (hinner rfl).elim

end Call

/-! ### Calls one after another -/

/-- The outcomes that are heard of calls one after another. -/
def heardAll (isAfterAll : String → Bool) : List Call → Recorder → List Outcome
  | [], _ => []
  | call :: rest, r => call.heard isAfterAll r ++
    match call.perform r with
    | .ok _ r' => heardAll isAfterAll rest r'
    | .error _ _ => []

private theorem heardAll_append {isAfterAll : String → Bool} {before after : List Call}
    {r r' : Recorder} (h : Runs (performAll before) r () r') :
    heardAll isAfterAll (before ++ after) r
      = heardAll isAfterAll before r ++ heardAll isAfterAll after r' := by
  induction before generalizing r with
  | nil =>
    obtain ⟨-, rfl⟩ := (Runs.pure _ _).unique h
    rfl
  | cons call rest ih =>
    obtain ⟨answer, r₁, hcall, hrest⟩ := h.exists_of_bind
    have hcall' : call.perform r = .ok answer r₁ := hcall
    simp only [List.cons_append, heardAll, hcall', ih hrest, List.append_assoc]

/-- What is added for one of several keys can as well be added at the end. -/
private theorem perm_flatMap_append_ite {α β : Type} [DecidableEq α] {keys : List α}
    (hkeys : keys.Nodup) {key : α} (hkey : key ∈ keys) (f : α → List β) (added : List β) :
    (keys.flatMap fun k => f k ++ if k = key then added else []).Perm
      (keys.flatMap f ++ added) := by
  -- the key is among the others once
  have hone : keys.flatMap (fun k => if k = key then added else []) = added := by
    induction keys with
    | nil => cases hkey
    | cons k rest ih =>
      obtain ⟨hnew, hrest⟩ := List.nodup_cons.1 hkeys
      rw [List.flatMap_cons]
      by_cases heq : k = key
      · have hnone : rest.flatMap (fun k => if k = key then added else []) = [] :=
          List.flatMap_eq_nil_iff.2 fun x hx => if_neg fun hx' => hnew (by rwa [heq, ← hx'])
        rw [if_pos heq, hnone, List.append_nil]
      · rw [if_neg heq, List.nil_append]
        exact ih hrest (List.mem_of_ne_of_mem (Ne.symm heq) hkey)
  have hperm := (List.flatMap_append_perm keys f fun k => if k = key then added else []).symm
  rwa [hone] at hperm

/-- What has been heard of all calls is what is heard in the logs of all contexts. -/
private theorem perm_heardAll (isAfterAll : String → Bool) {calls : List Call} {r₀ r : Recorder}
    (hr₀ : ∀ id, r₀.registry.logOf id = []) (h : Runs (performAll calls) r₀ () r) :
    ∀ ids : List String, ids.Nodup → (∀ id ∉ ids, r.registry.logOf id = []) →
      (ids.flatMap fun id => (endings isAfterAll (r.registry.logOf id)).map (·.outcome)).Perm
        (heardAll isAfterAll calls r₀) := by
  refine performAll_induction (P := fun calls r => ∀ ids : List String, ids.Nodup →
    (∀ id ∉ ids, r.registry.logOf id = []) →
    (ids.flatMap fun id => (endings isAfterAll (r.registry.logOf id)).map (·.outcome)).Perm
      (heardAll isAfterAll calls r₀)) ?_ ?_ calls r h
  -- before the first call every log is empty
  · intro ids _ _
    refine .of_eq (List.flatMap_eq_nil_iff.2 fun id _ => ?_)
    rw [hr₀]
    rfl
  · intro calls call r answer r' hcalls ih hcall ids hids hothers
    have hlog := (Call.done hcall).logOf
    have hbefore : ∀ id ∉ ids, r.registry.logOf id = [] := fun id hid =>
      (List.append_eq_nil_iff.1 ((hlog id).symm.trans (hothers id hid))).1
    -- only the log of the active context has grown
    have hendings : ∀ id, (endings isAfterAll (r'.registry.logOf id)).map (·.outcome)
        = (endings isAfterAll (r.registry.logOf id)).map (·.outcome)
          ++ if id = r.context then call.heard isAfterAll r else [] := by
      intro id
      rw [hlog]
      by_cases hid : id = r.context
      · rw [if_pos hid, if_pos hid, hid]
        exact call.endings_messages isAfterAll r
      · rw [if_neg hid, if_neg hid, List.append_nil, List.append_nil]
    -- what is heard of the last call comes after the rest
    have hcalled : heardAll isAfterAll (calls ++ [call]) r₀
        = heardAll isAfterAll calls r₀ ++ call.heard isAfterAll r := by
      have hcall' : call.perform r = .ok answer r' := hcall
      simp only [heardAll_append hcalls, heardAll, hcall', List.append_nil]
    rw [hcalled]
    by_cases hmem : r.context ∈ ids
    · simp only [hendings]
      exact (perm_flatMap_append_ite hids hmem _ _).trans ((ih ids hids hbefore).append_right _)
    · -- the active context has no log, so nothing has been heard of the call
      have hnothing := hendings r.context
      rw [hothers _ hmem, hbefore _ hmem, if_pos rfl] at hnothing
      rw [show call.heard isAfterAll r = [] from hnothing.symm, List.append_nil]
      refine .trans (.of_eq (List.flatMap_congr fun id hid => ?_)) (ih ids hids hbefore)
      rw [hendings, if_neg fun heq => hmem (by rwa [← heq]), List.append_nil]

variable {isAfterAll : String → Bool} {synchronised : Bool}

/-- Whatever a recorder on a new registry is asked for, in any contexts, the tests of the report
have the outcomes that have been heard: as many tests have an outcome as calls have been heard with
it. Every call to fail or skip a test is heard, unless the test is pending in the log while the
replay has none open. -/
theorem perm_outcomes {defaultContext language framework : String} {registry : Registry}
    (hr : Registry.create defaultContext = .ok registry) {clock : Nat → Int} {calls : List Call}
    {r : Recorder} (h : Runs (performAll calls) (onto registry language framework clock) () r)
    {b : Backend} (hb : b.IsNew) {w : Workspace Desk}
    (hw : Runs (Workspace.drainAll (Desk.machine isAfterAll synchronised))
      ⟨r.registry, { report := b }⟩ () w) :
    (w.world.report.writtenTests.filterMap (·.outcome)).Perm
      (heardAll isAfterAll calls (onto registry language framework clock)) := by
  obtain ⟨ids, hunread⟩ := exists_isUnread hr h
  obtain ⟨-, rfl⟩ := Registry.eq_of_create hr
  have htests := Workspace.tells_of_drainAll hunread hb hw
  have hheard := perm_heardAll isAfterAll (fun _ => rfl) h ids hunread.nodup
    hunread.others
  refine .trans (.of_eq ?_) hheard
  rw [filterMap_outcome htests, hunread.sessions, Registry.unread]
  simp only [List.flatMap_map, List.filterMap_flatMap, List.map_flatMap, endings]

/-- A test that fails without a start, and two tests of another context. -/
theorem perm_outcomes_of_two_contexts :
    Registry.create "0-0" = .ok {} ∧ ∃ r w,
      Runs (performAll [.startSuite "outer" false,
          .failTest "a" .failed (some { message := some "no" }) none none none,
          .useContext (some "1-0"), .startTest "b" (some 5), .passTest (some 7) none,
          .skipTest (some "c") none])
        (onto {} "python" "lifecycle-report" fun n => n) () r
      ∧ (Backend.inMemory {}).IsNew
      ∧ Runs (Workspace.drainAll (Desk.machine (fun _ => false) true))
        ⟨r.registry, { report := .inMemory {} }⟩ () w
      ∧ (w.world.report.writtenTests.filterMap (·.outcome)).Perm
        [(.failed, some { message := some "no" }), (.passed, none), (.skipped, none)] := by
  have hr : Registry.create "0-0" = .ok {} := rfl
  have hb := Backend.IsNew.inMemory {}
  obtain ⟨r, hcalls, -⟩ := exists_runs_of_computes
    (performAll [.startSuite "outer" false,
      .failTest "a" .failed (some { message := some "no" }) none none none,
      .useContext (some "1-0"), .startTest "b" (some 5), .passTest (some 7) none,
      .skipTest (some "c") none])
    (onto {} "python" "lifecycle-report" fun n => n) (fun _ => true) (by decide +kernel)
  obtain ⟨ids, hunread⟩ := exists_isUnread hr hcalls
  obtain ⟨w, hw, -⟩ := Workspace.exists_runs_drainAll (fun _ => false) true hunread
  have hperm := perm_outcomes hr hcalls hb hw
  -- what is heard of the calls is computed
  have hheard : heardAll (fun _ => false) [.startSuite "outer" false,
      .failTest "a" .failed (some { message := some "no" }) none none none,
      .useContext (some "1-0"), .startTest "b" (some 5), .passTest (some 7) none,
      .skipTest (some "c") none] (onto {} "python" "lifecycle-report" fun n => n)
      = [(.failed, some { message := some "no" }), (.passed, none), (.skipped, none)] := by
    decide +kernel
  exact ⟨hr, r, w, hcalls, hb, hw, hheard ▸ hperm⟩

/-- A suite that starts inside a test finalizes it, and its failure is lost. -/
theorem lost_outcome_of_suite_in_test :
    Registry.create "0-0" = .ok {} ∧ ∃ r w,
      Runs (performAll [.startTest "a" none, .startSuite "s" false,
          .failTest "a" .failed (some { message := some "no" }) none none none])
        (onto {} "python" "lifecycle-report" fun n => n) () r
      ∧ Runs (Workspace.drainAll (Desk.machine (fun _ => false) true))
        ⟨r.registry, { report := .inMemory {} }⟩ () w
      ∧ w.world.report.writtenTests.map (fun t => (t.name, t.status, t.details))
        = [("a", none, none)] := by
  have hr : Registry.create "0-0" = .ok {} := rfl
  -- the log ends the test after the suite has finalized it
  obtain ⟨r, hcalls, hlog⟩ := exists_runs_of_computes
    (performAll [.startTest "a" none, .startSuite "s" false,
      .failTest "a" .failed (some { message := some "no" }) none none none])
    (onto {} "python" "lifecycle-report" fun n => n)
    (fun r => r.registry.sessions.map (·.log) = [[.testStart "a" 0,
      .entry (.metadata [⟨"language", "python"⟩, ⟨"framework", "lifecycle-report"⟩,
        ⟨"thread", "0-0"⟩] []),
      .suiteStart "s" false,
      .testEnd ⟨.failed, 1, some .finished, none, some { message := some "no" }⟩]])
    (by decide +kernel)
  obtain ⟨ids, hunread⟩ := exists_isUnread hr hcalls
  obtain ⟨w, hw, hreport⟩ := Workspace.exists_runs_drainAll (fun _ => false) true hunread
  refine ⟨hr, r, w, hcalls, hw, ?_⟩
  obtain ⟨s, hs, hlog⟩ := List.map_eq_singleton_iff.1 (of_decide_eq_true hlog)
  rw [hreport, hs]
  simp only [Backend.replayedAll, List.foldl_cons, List.foldl_nil, hlog]
  decide +kernel

end Recorder

end Chronicle
