import Chronicle.Proofs.Replay.EndedHooks
import Chronicle.Proofs.Session.Outcomes
import Chronicle.Config.Settings

/-!
# Hooks that fail with nothing open

A hook that fails where neither a test nor a hook is pending is reported twice: as a fixture, and as
a test that is made up for it. The fixture is always there. The test is broken like the hook, unless
the name of the hook says that it runs after all tests: then the start of the hook finalizes the
test that has just been made up, and the test has no status: `Recorder.exists_brokenHook`.
-/
namespace Chronicle

/-! ### One session among others -/

namespace Backend

variable {b : Backend} {isAfterAll : String → Bool}

private theorem BetweenReplays.report_replayed (hb : b.BetweenReplays) (log : List Message) :
    (b.replayed isAfterAll log).BetweenReplays :=
  hb.replayed (Machine.runs_replay hb.idle isAfterAll true "" log)

/-- The scopes of a report stay as they are while other sessions are replayed. -/
private theorem subset_writtenScopeResults_replayedAll (hb : b.BetweenReplays)
    (sessions : List Session) :
    b.writtenScopeResults ⊆ (b.replayedAll isAfterAll sessions).writtenScopeResults := by
  induction sessions generalizing b with
  | nil => exact List.Subset.refl _
  | cons s rest ih =>
    have hstocked := hb.hooked.stocked
    simp only [Standing.allScopes, Standing.initial, List.append_nil] at hstocked
    have hscopes : (b.replayed isAfterAll s.log).writtenScopeResults = b.writtenScopeResults ++ _ :=
      congrArg (·.scopes) (finished_replayed hstocked isAfterAll s.log {})
    intro x hx
    exact ih (hb.report_replayed s.log) (hscopes ▸ List.mem_append_left _ hx)

/-- What is shown after the replay of one session is shown in the end. -/
private theorem exists_writtenScopeResult_replayedAll {P : ScopeResult → Prop}
    {sessions : List Session} {s : Session} (hs : s ∈ sessions)
    (hP : ∀ b : Backend, b.BetweenReplays → ∃ x ∈ (b.replayed isAfterAll s.log).writtenScopeResults,
      P x) (hb : b.BetweenReplays) :
    ∃ x ∈ (b.replayedAll isAfterAll sessions).writtenScopeResults, P x := by
  induction sessions generalizing b with
  | nil => cases hs
  | cons s' rest ih =>
    have hnext : (b.replayed isAfterAll s'.log).BetweenReplays := hb.report_replayed s'.log
    rcases List.mem_cons.1 hs with rfl | hs
    · obtain ⟨x, hx, hPx⟩ := hP b hb
      exact ⟨x, subset_writtenScopeResults_replayedAll hnext rest hx, hPx⟩
    · exact ih hs hnext

end Backend

/-! ### The test that is made up -/

private theorem exists_of_forall₂_of_mem {α β : Type} {R : α → β → Prop} {as : List α} {bs : List β}
    (h : List.Forall₂ R as bs) {a : α} (ha : a ∈ as) : ∃ b ∈ bs, R a b := by
  induction h with
  | nil => cases ha
  | @cons a' b as bs hab _ ih =>
    rcases List.mem_cons.1 ha with rfl | ha
    · exact ⟨b, List.mem_cons_self, hab⟩
    · obtain ⟨b', hb', hab'⟩ := ih ha
      exact ⟨b', List.mem_cons_of_mem _ hb', hab'⟩

/-- The start of a test in a log is one of its tests. -/
private theorem mem_testRuns (isAfterAll : String → Bool) (before : List Message) (name : String)
    (start : Int) (after : List Message) :
    ⟨name, start, window isAfterAll after⟩
      ∈ testRuns isAfterAll (before ++ .testStart name start :: after) := by
  induction before with
  | nil => exact List.mem_cons_self
  | cons m rest ih => cases m <;> simp [testRuns, ih]

/-- What follows the start of a test that is made up for a hook. -/
def hookInTest (labels : List Label) (name : String) (kind : HookKind) (start : Int)
    (h : HookEnding) (e : TestEnding) (after : List Message) : List Message :=
  .entry (.metadata labels []) :: .hookStart name kind start :: .hookEnd h :: .testEnd e :: after

section

variable (isAfterAll : String → Bool) (labels : List Label) (name : String) (kind : HookKind)
  (start : Int) (h : HookEnding) (e : TestEnding) (after : List Message)

/-- The test is over before its end if the start of the hook finalizes it. -/
private theorem ending_of_hookInTest :
    TestRun.ending ⟨name, start, window isAfterAll (hookInTest labels name kind start h e after)⟩
      = if isAfterAll name then none else some e := by
  cases hname : isAfterAll name <;>
    simp [TestRun.ending, window, hookInTest, Message.finalizes, Message.ending?, hname]

/-- The hook is found in the report. -/
private theorem Backend.exists_hookInTest_replayed {b : Backend} (hb : b.BetweenReplays)
    {before : List Message} (hbefore : isPending .suite before = true) :
    ∃ s ∈ (b.replayed isAfterAll (before ++ .testStart name start
        :: hookInTest labels name kind start h e after)).writtenScopeResults,
      ∃ f ∈ s.befores ++ s.afters, FixtureResult.IsOf f name kind start h := by
  have hpending : isPending .suite
      (before ++ [.testStart name start] ++ [.entry (.metadata labels [])]) = true := by
    rw [isPending_snoc, isPending_snoc]
    exact hbefore
  have hshown := exists_hook_replayed hb isAfterAll hpending name kind start h
    (.testEnd e :: after)
  rwa [List.append_assoc, List.append_assoc] at hshown

end

namespace Recorder

variable {isAfterAll : String → Bool} {synchronised : Bool} {r r' r'' : Recorder} {name : String}
  {details : StatusDetails} {kind : Option HookKind} {start stop duration : Option Int}

/-- A hook that fails with nothing open adds a test with the hook in it to the log. -/
private theorem exists_log_of_breaks (hbreaks : r.breaksHook = true) {answer : Option Bool}
    (hcall : Runs (Call.endHook name (some details) kind start stop duration).perform r answer r')
    {after : List Call} (hafter : Runs (performAll after) r' () r'') :
    ∃ labels side begun ms, r''.registry.logOf r.context = r.log ++ .testStart name begun
      :: hookInTest labels name side begun ⟨.broken, r.timeAfter 0 stop, duration, some details⟩
        ⟨.broken, r.timeAfter 0 stop, some .finished, duration, none⟩ ms := by
  have hlog := (Call.done hcall).logOf r.context
  rw [if_pos rfl, Call.messages_endHook_of_breaks hbreaks] at hlog
  obtain ⟨ms, hms⟩ := logOf_performAll hafter r.context
  rw [hlog, startMessages] at hms
  refine ⟨r.testLabels ++ ((Chronicle.currentFeature r.log).map LabelName.feature.label).toList,
    kind.getD (hookKindOf name), r.timeAfter (readingsFor stop) start, ms, hms.trans ?_⟩
  simp only [log, hookInTest, List.append_assoc, List.cons_append, List.nil_append]

/-- A hook that ends among other calls. It returns whether a suite is pending. -/
private theorem exists_endHook {r₀ : Recorder} {before after : List Call}
    {error : Option StatusDetails}
    (h : Runs (performAll (before ++ .endHook name error kind start stop duration :: after)) r₀ ()
      r'') :
    ∃ r r', Runs (performAll before) r₀ () r
      ∧ Runs (endHook name error kind start stop duration) r (r.hasPending .suite) r'
      ∧ Runs (performAll after) r' () r'' := by
  obtain ⟨r, _, r', hbefore, hperform, hafter, -⟩ := exists_call h
  obtain ⟨answer, _, hcall, hreturn⟩ := hperform.exists_of_bind
  obtain ⟨rfl, rfl⟩ := (Runs.pure _ _).unique hreturn
  obtain rfl : answer = r.hasPending .suite := Option.some.inj (Call.done hperform).answer
  exact ⟨r, _, hbefore, hcall, hafter⟩

/-- Whatever a recorder on a new registry is asked for, each call to end a hook with an error that
returns `true` where neither a test nor a hook is pending is found in the report. There is a fixture
with the name of the hook that is broken in this way. There is a test with its name as well, which
is broken and stops when the hook does, unless the hook runs after all tests: then the test is open
to the end, without a status. -/
theorem exists_brokenHook {defaultContext language framework : String} {registry : Registry}
    (hr : Registry.create defaultContext = .ok registry) {clock : Nat → Int}
    {before after : List Call}
    (hbefore : Runs (performAll before) (onto registry language framework clock) () r)
    (htest : r.hasPending .test = false) (hhook : r.hasPending .hook = false)
    (hcall : Runs (endHook name (some details) kind start stop duration) r true r')
    (hafter : Runs (performAll after) r' () r'') {b : Backend} (hb : b.IsNew) {w : Workspace Desk}
    (hw : Runs (Workspace.drainAll (Desk.machine isAfterAll synchronised))
      ⟨r''.registry, { report := b }⟩ () w) :
    (∃ t ∈ w.world.report.writtenTests, t.name = name
        ∧ t.status = (if isAfterAll name then none else some .broken)
        ∧ t.stop = (if isAfterAll name then none else some (stop.getD (r.clock r.readings))))
      ∧ ∃ s ∈ w.world.report.writtenScopeResults, ∃ f ∈ s.befores ++ s.afters,
        f.name = name ∧ f.status = some .broken ∧ f.details = some details
        ∧ f.stop = some (stop.getD (r.clock r.readings)) := by
  have hperform : Runs (Call.endHook name (some details) kind start stop duration).perform r
      (some true) r' := hcall.bind (.pure _ _)
  -- the hook answers that it was added, so a suite was pending
  have hsuite : r.hasPending .suite = true := (Option.some.inj (Call.done hperform).answer).symm
  have hbreaks : r.breaksHook = true := by rw [breaksHook, hsuite, htest, hhook]; rfl
  obtain ⟨labels, side, begun, ms, hlog⟩ := exists_log_of_breaks hbreaks hperform hafter
  -- the log of the active context is replayed among others
  have hall : Runs (performAll (before ++ .endHook name (some details) kind start stop duration
      :: after)) (onto registry language framework clock) () r'' :=
    runs_performAll_append.2 ⟨r, hbefore, hperform.bind hafter⟩
  obtain ⟨ids, hunread⟩ := exists_isUnread hr hall
  obtain ⟨s, hs, hslog⟩ := hunread.exists_session r.context (by simp [hlog])
  rw [hlog] at hslog
  constructor
  -- the test made up for the hook has a window, and so a record
  · have hrun := mem_testRuns isAfterAll r.log name begun (hookInTest labels name side
      begun ⟨.broken, r.timeAfter 0 stop, duration, some details⟩
      ⟨.broken, r.timeAfter 0 stop, some .finished, duration, none⟩ ms)
    rw [← hslog] at hrun
    obtain ⟨t, ht, htells⟩ := exists_of_forall₂_of_mem
      (Workspace.tells_of_drainAll hunread hb hw) (List.mem_flatMap.2 ⟨s, hs, hrun⟩)
    have hstatus := htells.status
    have hstop := htells.stop
    rw [ending_of_hookInTest] at hstatus hstop
    refine ⟨t, ht, htells.name, ?_, ?_⟩
    · rw [hstatus]
      split <;> rfl
    · rw [hstop]
      split <;> rfl
  -- the hook is shown in the scope that was open around it
  · have hshown := fun b (hb : Backend.BetweenReplays b) =>
      Backend.exists_hookInTest_replayed isAfterAll labels name side begun
        ⟨.broken, r.timeAfter 0 stop, duration, some details⟩
        ⟨.broken, r.timeAfter 0 stop, some .finished, duration, none⟩ ms hb hsuite
    rw [← hslog] at hshown
    obtain ⟨x, hx, f, hf, hof⟩ :=
      Backend.exists_writtenScopeResult_replayedAll hs hshown (.fresh {})
    have hscopes : w.world.report.writtenScopeResults
        = ((Backend.inMemory {}).replayedAll isAfterAll
          r''.registry.sessions).writtenScopeResults :=
      congrArg (·.writtenScopeResults) (Workspace.forget_of_drainAll hunread hb hw)
    exact ⟨x, hscopes ▸ hx, f, hf, hof.name, hof.status, hof.details, hof.stop⟩

/-- A hook in a suite fails with nothing else open, and tests go on after it. -/
theorem exists_brokenHook_of_teardown :
    Registry.create "0-0" = .ok {} ∧ ∃ r r' r'' w,
      Runs (performAll [.startSuite "outer" false])
        (onto {} "python" "lifecycle-report" fun n => n) () r
      ∧ r.hasPending .test = false ∧ r.hasPending .hook = false
      ∧ Runs (endHook "teardown" (some { message := some "no" }) none none (some 7) none) r true r'
      ∧ Runs (performAll [.startTest "a" none, .passTest none none]) r' () r''
      ∧ (Backend.inMemory {}).IsNew
      ∧ Runs (Workspace.drainAll (Desk.machine ({} : RuntimeSettings).afterAll.occursIn true))
        ⟨r''.registry, { report := .inMemory {} }⟩ () w
      ∧ (∃ t ∈ w.world.report.writtenTests,
        t.name = "teardown" ∧ t.status = some .broken ∧ t.stop = some 7)
      ∧ ∃ s ∈ w.world.report.writtenScopeResults, ∃ f ∈ s.befores ++ s.afters,
        f.name = "teardown" ∧ f.status = some .broken
        ∧ f.details = some { message := some "no" } := by
  have hr : Registry.create "0-0" = .ok {} := rfl
  have hname : ({} : RuntimeSettings).afterAll.occursIn "teardown" = false := by decide +kernel
  have hb := Backend.IsNew.inMemory {}
  -- what comes before the hook is run by itself first
  obtain ⟨r, hbefore, hbreaks⟩ := exists_runs_of_computes (performAll [.startSuite "outer" false])
    (onto {} "python" "lifecycle-report" fun n => n) (·.breaksHook) (by decide +kernel)
  obtain ⟨r'', hall, -⟩ := exists_runs_of_computes
    (performAll ([.startSuite "outer" false]
      ++ .endHook "teardown" (some { message := some "no" }) none none (some 7) none
      :: [.startTest "a" none, .passTest none none]))
    (onto {} "python" "lifecycle-report" fun n => n) (fun _ => true) (by decide +kernel)
  -- the calls are taken apart at the hook
  obtain ⟨_, r', hbefore', hcall, hafter⟩ := exists_endHook hall
  obtain ⟨-, rfl⟩ := hbefore.unique hbefore'
  simp only [breaksHook, Bool.and_eq_true, Bool.not_eq_true'] at hbreaks
  obtain ⟨⟨hsuite, htest⟩, hhook⟩ := hbreaks
  rw [hsuite] at hcall
  obtain ⟨ids, hunread⟩ := exists_isUnread hr hall
  obtain ⟨w, hw, -⟩ :=
    Workspace.exists_runs_drainAll ({} : RuntimeSettings).afterAll.occursIn true hunread
  obtain ⟨⟨t, ht, hnamed, hstatus, hstop⟩, s, hs, f, hf, hfname, hfstatus, hdetails, -⟩ :=
    exists_brokenHook hr hbefore htest hhook hcall hafter hb hw
  rw [hname] at hstatus hstop
  exact ⟨hr, r, r', r'', w, hbefore, htest, hhook, hcall, hafter, hb, hw,
    ⟨t, ht, hnamed, hstatus, hstop⟩, s, hs, f, hf, hfname, hfstatus, hdetails⟩

/-- By default a hook with this name runs after all tests, so it takes the status from the test that
is made up for it. -/
theorem unbroken_test_of_after_all :
    Registry.create "0-0" = .ok {} ∧ ∃ r r' w,
      Runs (performAll [.startSuite "s" false])
        (onto {} "python" "lifecycle-report" fun n => n) () r
      ∧ r.hasPending .test = false ∧ r.hasPending .hook = false
      ∧ Runs (endHook "after all" (some { message := some "no" }) none none (some 7) none) r true r'
      ∧ Runs (Workspace.drainAll (Desk.machine ({} : RuntimeSettings).afterAll.occursIn true))
        ⟨r'.registry, { report := .inMemory {} }⟩ () w
      ∧ w.world.report.writtenTests.map (fun t => (t.name, t.status, t.stop))
        = [("after all", none, none)] := by
  have hr : Registry.create "0-0" = .ok {} := rfl
  have hname : ({} : RuntimeSettings).afterAll.occursIn "after all" = true := by decide +kernel
  obtain ⟨r, hbefore, hbreaks⟩ := exists_runs_of_computes (performAll [.startSuite "s" false])
    (onto {} "python" "lifecycle-report" fun n => n) (·.breaksHook) (by decide +kernel)
  -- the calls are run, and the log they leave is computed
  obtain ⟨r'', hall, hlogs⟩ := exists_runs_of_computes
    (performAll ([.startSuite "s" false]
      ++ [.endHook "after all" (some { message := some "no" }) none none (some 7) none]))
    (onto {} "python" "lifecycle-report" fun n => n)
    (fun r => r.registry.sessions.map (·.log) = [.suiteStart "s" false :: .testStart "after all" 0
      :: hookInTest [⟨"parentSuite", "s"⟩, ⟨"language", "python"⟩,
          ⟨"framework", "lifecycle-report"⟩, ⟨"thread", "0-0"⟩] "after all" .after 0
        ⟨.broken, 7, none, some { message := some "no" }⟩
        ⟨.broken, 7, some .finished, none, none⟩ []])
    (by decide +kernel)
  obtain ⟨_, r', hbefore', hcall, hafter⟩ := exists_endHook hall
  obtain ⟨-, rfl⟩ := hbefore.unique hbefore'
  obtain ⟨-, rfl⟩ := (Runs.pure _ _).unique hafter
  simp only [breaksHook, Bool.and_eq_true, Bool.not_eq_true'] at hbreaks
  obtain ⟨⟨hsuite, htest⟩, hhook⟩ := hbreaks
  rw [hsuite] at hcall
  obtain ⟨ids, hunread⟩ := exists_isUnread hr hall
  obtain ⟨w, hw, -⟩ :=
    Workspace.exists_runs_drainAll ({} : RuntimeSettings).afterAll.occursIn true hunread
  refine ⟨hr, r, r', w, hbefore, htest, hhook, hcall, hw, ?_⟩
  -- the log has one test, and its window ends where the hook starts
  have htests := Workspace.tells_of_drainAll hunread (.inMemory {}) hw
  obtain ⟨s, hs, hlog⟩ := List.map_eq_singleton_iff.1 (of_decide_eq_true hlogs)
  -- the window stops before the hook, so the ending is not in it
  have hruns : testRuns ({} : RuntimeSettings).afterAll.occursIn s.log
      = [⟨"after all", 0, [.entry (.metadata [⟨"parentSuite", "s"⟩, ⟨"language", "python"⟩,
        ⟨"framework", "lifecycle-report"⟩, ⟨"thread", "0-0"⟩] [])]⟩] := by
    simp [hlog, testRuns, window, hookInTest, Message.finalizes, hname]
  rw [hs, List.flatMap_singleton, hruns] at htests
  obtain ⟨t, rest, htells, hrest, heq⟩ := List.forall₂_cons_left_iff.1 htests
  obtain rfl := List.forall₂_nil_left_iff.1 hrest
  simp [heq, htells.name, htells.status, htells.stop, TestRun.ending, Message.ending?]

end Recorder

end Chronicle
