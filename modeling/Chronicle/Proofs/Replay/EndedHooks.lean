import Chronicle.Proofs.Replay.Hooks
import Chronicle.Proofs.Session.Pending

/-!
# Hooks that have ended

A fixture that has ended stays as it is and where it is listed, whatever is replayed afterwards:
`Standing.Keeps`. So a hook that starts while a suite is pending, and ends with the next message, is
found in the report: `Backend.exists_hook_replayed`.
-/
namespace Chronicle

/-- Whether a fixture is that of a hook that ended in this way. -/
structure FixtureResult.IsOf (f : FixtureResult) (name : String) (kind : HookKind) (start : Int)
    (e : HookEnding) : Prop where
  name : f.name = name
  kind : f.kind = kind
  start : f.start = start
  status : f.status = some e.status
  stop : f.stop = some e.stop
  details : f.details = e.details
  stage : f.stage = .finished

namespace Standing

variable {b : Backend} {st st' : Standing} {isAfterAll : String → Bool} {scope : Handle}
  {kind : HookKind} {f : FixtureResult}

/-- A scope lists a fixture that does not run. -/
structure Keeps (b : Backend) (scope : Handle) (kind : HookKind) (f : FixtureResult)
    (st : Standing) : Prop where
  hooked : st.Hooked b
  mem : f ∈ (st.report b).hooks scope kind
  stopped : f.handle ∉ st.running

namespace Keeps

theorem same (h : st.Keeps b scope kind f) (hm : Moves st st') (hs : SameHooks b st st') :
    st'.Keeps b scope kind f where
  hooked := h.hooked.same hm hs
  mem := hs.hooks ▸ h.mem
  stopped := hs.running ▸ h.stopped

theorem finalize (h : st.Keeps b scope kind f) : st.finalize.Keeps b scope kind f :=
  h.same (moves_finalize st) (sameHooks_finalize st)

theorem startFixture (h : st.Keeps b scope kind f) (k : HookKind) (name : String) (start : Int) :
    (st.startFixture k name start).Keeps b scope kind f := by
  cases hc : st.scopes with
  | nil =>
    simp only [Standing.startFixture, hc]
    exact h
  -- the new fixture comes after the older ones and has another handle
  | cons s rest =>
    refine ⟨h.hooked.startFixture k name start, ?_, ?_⟩
    · rw [h.hooked.hooks_startFixture hc]
      exact List.mem_append_left _ h.mem
    · simp only [Standing.startFixture, hc, List.mem_cons, not_or]
      exact ⟨(h.hooked.isBefore h.mem).ne_drawn, h.stopped⟩

theorem endHook (h : st.Keeps b scope kind f) (e : HookEnding) :
    (st.endHook e).Keeps b scope kind f := by
  cases hrunning : st.running with
  | nil => rwa [endHook_of_running_nil hrunning]
  | cons x rest =>
    obtain ⟨hhooks, hended⟩ := h.hooked.endHook e hrunning
    have hstopped := h.stopped
    rw [hrunning, List.mem_cons, not_or] at hstopped
    refine ⟨hended, ?_, ?_⟩
    · -- it is another fixture that ends
      rw [hhooks]
      exact List.mem_map.2 ⟨f, h.mem, if_neg hstopped.1⟩
    · simpa [Standing.endHook, updateFixture, Standing.stopFixture, hrunning] using hstopped.2

theorem step (h : st.Keeps b scope kind f) (m : Message) :
    (st.step isAfterAll m).Keeps b scope kind f := by
  -- only a hook start adds a fixture, and only a hook end changes one
  by_cases hstart : m.kind = .hookStart
  · cases m with
    | hookStart name k start =>
      simp only [Standing.step, startHook]
      split
      · exact h.finalize.startFixture k name start
      · exact h.startFixture k name start
    | suiteStart | suiteEnd | testStart | testInfo | testEnd | hookEnd => cases hstart
    | entry e => cases e <;> cases hstart
  by_cases hend : m.kind = .hookEnd
  · cases m with
    | hookEnd e => exact h.endHook e
    | suiteStart | suiteEnd | testStart | testInfo | testEnd | hookStart => cases hend
    | entry e => cases e <;> cases hend
  · exact h.same (moves_step isAfterAll m st) (sameHooks_step hstart hend st)

theorem steps (h : st.Keeps b scope kind f) (isAfterAll : String → Bool) (log : List Message) :
    (st.steps isAfterAll log).Keeps b scope kind f := by
  induction log generalizing st with
  | nil => exact h
  | cons m rest ih => exact ih (h.step m)

theorem settle (h : st.Keeps b scope kind f) : f ∈ (st.settle.report b).hooks scope kind := by
  rw [h.hooked.settle.1]
  exact List.mem_map.2 ⟨f, h.mem, if_neg h.stopped⟩

/-- What is kept at some moment of a replay is kept to its end. -/
theorem replay {log : List Message} (h : ((initial b).steps isAfterAll log).Keeps b scope kind f)
    (log' : List Message) :
    f ∈ (b.replayed isAfterAll (log ++ log')).hooks scope kind := by
  have hkept := h.steps isAfterAll log'
  rw [← steps_append] at hkept
  rw [Backend.replayed, Standing.replay]
  rcases dispatchAll_eq isAfterAll (log ++ log') (initial b) with heq | heq
  · rw [heq]
    exact hkept.settle
  · rw [heq]
    exact hkept.finalize.settle

end Keeps

/-- A hook that starts in an open scope and ends at once. -/
private theorem Hooked.exists_keeps (h : st.Hooked b) (hopen : st.scopes ≠ []) (name : String)
    (start : Int) (e : HookEnding) : ∃ scope f, FixtureResult.IsOf f name kind start e
      ∧ ((st.startFixture kind name start).endHook e).Keeps b scope kind f := by
  -- the fixture is started in the innermost scope
  obtain ⟨s, rest, hc⟩ := List.exists_cons_of_ne_nil hopen
  have hstarted := h.startFixture kind name start
  have hhooks := h.hooks_startFixture hc kind name start
  have hrunning : (st.startFixture kind name start).running = st.next :: st.running := by
    simp only [Standing.startFixture, hc]
  generalize st.startFixture kind name start = st' at hstarted hhooks hrunning
  -- it is on top of those that run, so the end is its own
  obtain ⟨hends, hended⟩ := hstarted.endHook e hrunning
  have hnodup := hstarted.sound.nodup_running
  rw [hrunning, List.nodup_cons] at hnodup
  refine ⟨s.handle, FixtureResult.finishedBy e
    { handle := st.next, name := name, kind := kind, start := start }, ?_, hended, ?_, ?_⟩
  -- the record is that of the start and the end
  · refine ⟨rfl, rfl, rfl, rfl, rfl, ?_, rfl⟩
    cases hd : e.details <;> simp [FixtureResult.finishedBy, hd]
  · rw [hends, changeHook, hhooks]
    refine List.mem_map.2 ⟨{ handle := st.next, name := name, kind := kind, start := start },
      List.mem_append_right _ ?_, if_pos rfl⟩
    simp
  -- it is stopped, for it was on the stack only once
  · have hrest : (st'.endHook e).running = st.running := by
      simp [Standing.endHook, updateFixture, Standing.stopFixture, hrunning]
    rw [hrest]
    exact hnodup.1

/-- While a suite is pending there is an open scope, and another one if a test is open. -/
private theorem scopes_ne_nil_of_pending (b : Backend) (isAfterAll : String → Bool)
    {log : List Message} (hlog : isPending .suite log = true) :
    ((initial b).steps isAfterAll log).scopes ≠ []
      ∧ ((initial b).steps isAfterAll log).finalize.scopes ≠ [] := by
  obtain ⟨marks, hcharts, hkinds⟩ := exists_charts b isAfterAll log
  generalize (initial b).steps isAfterAll log = st at hcharts
  have hsuites : st.suites ≠ [] := fun hnil => by
    have hlength := length_openSuites hkinds
    rw [← hcharts.suites, hnil] at hlength
    exact openSuiteNames_ne_nil hlog (List.length_eq_zero_iff.1 hlength.symm)
  -- the open suites are among the open scopes, before the finalization of the test and after it
  have hscopes : ∀ st : Standing, st.suites ≠ [] → st.scopes ≠ [] := fun st hne hnil => by
    simp [suites, hnil] at hne
  exact ⟨hscopes st hsuites, hscopes _ ((still_finalize st).suites.symm ▸ hsuites)⟩

end Standing

namespace Backend

variable {b : Backend} {isAfterAll : String → Bool}

/-- The fixtures of written scopes are shown by them. -/
private theorem exists_shown {scope : Handle} {kind : HookKind} {f : FixtureResult}
    (hscopes : b.scopes = []) (hf : f ∈ b.hooks scope kind) :
    ∃ s ∈ b.writtenScopeResults, f ∈ s.befores ++ s.afters := by
  rw [hooks, hscopes, List.map_nil, List.append_nil] at hf
  obtain ⟨s, hs, hf⟩ := List.mem_flatMap.1 hf
  refine ⟨b.scopeResult s, List.mem_map_of_mem (List.mem_filter.1 hs).1, ?_⟩
  cases kind with
  | before => exact List.mem_append_left _ hf
  | after => exact List.mem_append_right _ hf

/-- A hook that starts while a suite is pending, and ends with the next message, is found in the
report. -/
theorem exists_hook_replayed (hb : b.BetweenReplays) (isAfterAll : String → Bool)
    {before : List Message}
    (hbefore : isPending .suite before = true) (name : String) (kind : HookKind) (start : Int)
    (e : HookEnding) (after : List Message) :
    ∃ s ∈ (b.replayed isAfterAll
        (before ++ .hookStart name kind start :: .hookEnd e :: after)).writtenScopeResults,
      ∃ f ∈ s.befores ++ s.afters, FixtureResult.IsOf f name kind start e := by
  obtain ⟨hopen, hopenFinalized⟩ := Standing.scopes_ne_nil_of_pending b isAfterAll hbefore
  have hhooked := hb.hooked.steps isAfterAll before
  -- the test is finalized first if the hook runs after all tests, and there is still a scope
  obtain ⟨scope, f, hf, hkeeps⟩ : ∃ scope f, FixtureResult.IsOf f name kind start e
      ∧ ((Standing.initial b).steps isAfterAll
        (before ++ [.hookStart name kind start, .hookEnd e])).Keeps b scope kind f := by
    rw [Standing.steps_append]
    generalize (Standing.initial b).steps isAfterAll before = st at hopen hopenFinalized hhooked
    simp only [Standing.steps_cons, Standing.steps_nil, Standing.step, Standing.startHook]
    split
    · exact (hhooked.same (Standing.moves_finalize st)
        (Standing.sameHooks_finalize st)).exists_keeps hopenFinalized name start e
    · exact hhooked.exists_keeps hopen name start e
  -- whatever comes after keeps it, to the end of the replay
  have hmem := hkeeps.replay after
  rw [List.append_assoc] at hmem
  have hidle := hb.idle.report_replay isAfterAll
    (before ++ .hookStart name kind start :: .hookEnd e :: after) (Standing.initial b)
  -- and the end of the replay shows it in its scope
  obtain ⟨s, hs, hshown⟩ := exists_shown hidle.scopes hmem
  exact ⟨s, hs, f, hshown, hf⟩

end Backend

end Chronicle
