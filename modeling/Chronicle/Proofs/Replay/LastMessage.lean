import Chronicle.Proofs.Replay.Hooks

/-!
# The last message

A message that is the last one of its log may write the open test at once, and not when the log has
ended. This only changes the order of the calls: `Machine.replay_snoc_marker` compares the replay of
a log to the replay in which one more message, an entry that says nothing, has taken the last place.
-/
namespace Chronicle

/-! ### The end of a replay as a whole -/

namespace Standing

variable {isAfterAll : String → Bool}

/-- The innermost open scope if a test is open: the scopes that are written with the test. -/
def ownScopes (st : Standing) : List Scope :=
  st.scopes.take st.current.toList.length

/-- The open scopes that are left when the open test is written. -/
def outerScopes (st : Standing) : List Scope :=
  st.scopes.drop st.current.toList.length

/-- The calls that write scopes. -/
def scopeCalls (scopes : List Scope) : List (Operation × Handle) :=
  scopes.map fun s => (.writeScope, s.handle)

/-- The calls that write the open test. -/
def testCalls (st : Standing) : List (Operation × Handle) :=
  scopeCalls st.ownScopes ++ st.current.toList.map fun c => (.writeTest, c.handle)

/-- The calls that stop the fixtures that run. -/
def stopCalls (st : Standing) : List (Operation × Handle) :=
  st.running.map (.stopFixture, ·)

theorem finalize_eq (st : Standing) :
    st.finalize = { st with
      scopes := st.outerScopes
      current := none
      writtenTests := st.writtenTests ++ st.current.toList.map (·.test.snapshot)
      writtenScopes := st.writtenScopes ++ st.ownScopes
      calls := st.calls ++ st.testCalls } := by
  obtain ⟨scopes, current⟩ := st
  cases current with
  | none => simp [finalize, ownScopes, outerScopes, testCalls, scopeCalls]
  | some c =>
    cases scopes <;>
      simp [finalize, closeScope, writeTest, ownScopes, outerScopes, testCalls, scopeCalls]

private theorem closeScopes_eq {scopes : List Scope} {st : Standing} (hs : st.scopes = scopes) :
    st.closeScopes scopes = { st with
      scopes := []
      writtenScopes := st.writtenScopes ++ scopes
      calls := st.calls ++ scopeCalls scopes } := by
  induction scopes generalizing st with
  | nil =>
    cases st
    cases hs
    simp [closeScopes, scopeCalls]
  | cons s rest ih =>
    rw [closeScopes, ih (by simp only [closeScope, hs])]
    simp [closeScope, hs, scopeCalls]

/-- The records of the fixtures once all that run have been stopped. -/
def stoppedFixtures (st : Standing) : Table FixtureResult :=
  st.running.foldl (fun fixtures h => fixtures.change h (·.stopped none none)) st.fixtures

private theorem stopFixtures_eq {fixtures : List Handle} {st : Standing}
    (hf : st.running = fixtures) :
    st.stopFixtures fixtures = { st with
      running := []
      fixtures := st.stoppedFixtures
      calls := st.calls ++ st.stopCalls } := by
  induction fixtures generalizing st with
  | nil =>
    cases st
    cases hf
    simp [stopFixtures, stoppedFixtures, stopCalls]
  | cons h rest ih =>
    rw [stopFixtures, ih (by simp only [stopFixture, hf])]
    simp [stopFixture, stoppedFixtures, stopCalls, hf]

/-- The end of a replay stops the fixtures that run, writes the open test and then the other open
scopes. -/
theorem settle_eq (st : Standing) :
    st.settle = { st with
      scopes := []
      current := none
      running := []
      fixtures := st.stoppedFixtures
      writtenTests := st.writtenTests ++ st.current.toList.map (·.test.snapshot)
      writtenScopes := st.writtenScopes ++ st.scopes
      calls := st.calls ++ (st.stopCalls ++ (st.testCalls ++ scopeCalls st.outerScopes)) } := by
  have hall : st.ownScopes ++ st.outerScopes = st.scopes := List.take_append_drop _ _
  rw [settle, stopFixtures_eq rfl, finalize_eq, closeScopes_eq rfl]
  simp only [testCalls, ownScopes, outerScopes, List.append_assoc] at hall ⊢
  rw [hall]

/-- What has been called so far does not matter for the end of a replay. -/
private theorem settle_calls (st : Standing) (calls : List (Operation × Handle)) :
    ({ st with calls := calls } : Standing).settle = { st.settle with
      calls := calls ++ (st.stopCalls ++ (st.testCalls ++ scopeCalls st.outerScopes)) } := by
  rw [settle_eq, settle_eq]
  rfl

/-- Writing the open test before the end of a replay only moves its calls to the front. -/
theorem settle_finalize (st : Standing) :
    st.finalize.settle = { st.settle with
      calls := st.calls ++ (st.testCalls ++ (st.stopCalls ++ scopeCalls st.outerScopes)) } := by
  rw [settle_eq, settle_eq, finalize_eq]
  simp [testCalls, stopCalls, scopeCalls, stoppedFixtures, ownScopes, outerScopes]

end Standing

/-! ### One more message -/

/-- An entry without labels and parameters. -/
def Message.marker : Message :=
  .entry (.metadata [] [])

namespace Standing

variable {isAfterAll : String → Bool}

theorem dispatchUntil_cons (m : Message) (rest log : List Message) (st : Standing) :
    st.dispatchUntil isAfterAll (m :: rest) log = st.steps isAfterAll log := by
  induction log generalizing st with
  | nil => rfl
  | cons m' between ih =>
    -- another message is still to come, so none before it is the last one
    have hlast : (between ++ m :: rest).isEmpty = false := by simp
    rw [dispatchUntil, ih, steps_cons, hlast]
    rfl

/-- The call that hands the marker on to the open test. -/
def markerCalls (st : Standing) : List (Operation × Handle) :=
  st.current.toList.map fun c => (.applyMessages, c.handle)

private theorem describe_nil (t : OpenTest) : t.describe [] [] = t := by
  simp [OpenTest.describe]

/-- The marker changes nothing about the open test. -/
private theorem dispatch_marker (st : Standing) :
    st.dispatch isAfterAll true .marker = { st with calls := st.calls ++ st.markerCalls } := by
  obtain ⟨scopes, current⟩ := st
  cases current <;>
    simp [dispatch, finalizes, step, applyEntry, changeTest, markerCalls, describe_nil,
      Message.marker]

private theorem dispatchAll_snoc_marker (log : List Message) (st : Standing) :
    st.dispatchAll isAfterAll (log ++ [.marker])
      = (st.steps isAfterAll log).dispatch isAfterAll true .marker := by
  rw [← dispatchUntil_cons]
  induction log generalizing st with
  | nil => rfl
  | cons m between ih => exact ih _

/-- The replay of a log, and that of the log with the marker at its end, differ in their calls
only: the marker may be handed on, and the open test may be written before the fixtures are stopped.
-/
private theorem exists_replay_snoc_marker (isAfterAll : String → Bool) (log : List Message)
    (st : Standing) :
    ∃ eager late, st.replay isAfterAll log = { st.replay isAfterAll (log ++ [.marker]) with
        calls := (st.steps isAfterAll log).calls
          ++ (eager ++ ((st.steps isAfterAll log).stopCalls ++ late)) }
      ∧ (st.replay isAfterAll (log ++ [.marker])).calls = (st.steps isAfterAll log).calls
          ++ ((st.steps isAfterAll log).markerCalls
            ++ ((st.steps isAfterAll log).stopCalls ++ (eager ++ late)))
      ∧ eager ++ late = (st.steps isAfterAll log).testCalls
          ++ scopeCalls (st.steps isAfterAll log).outerScopes := by
  generalize hu : st.steps isAfterAll log = u
  -- before the marker no message is the last one
  have hmarked : st.replay isAfterAll (log ++ [.marker])
      = ({ u with calls := u.calls ++ u.markerCalls } : Standing).settle := by
    rw [replay, dispatchAll_snoc_marker, dispatch_marker, hu]
  rw [hmarked, settle_calls u]
  -- without the marker the last message may have finalized the test before the fixtures are stopped
  rcases dispatchAll_eq isAfterAll log st with heq | heq
  · refine ⟨[], u.testCalls ++ scopeCalls u.outerScopes, ?_, by simp, rfl⟩
    rw [replay, heq, hu, settle_eq]
    rfl
  · refine ⟨u.testCalls, scopeCalls u.outerScopes, ?_, by simp, rfl⟩
    rw [replay, heq, hu, settle_finalize]

private theorem writes_of_mem {st : Standing} {call : Operation × Handle}
    (h : call ∈ st.testCalls ++ scopeCalls st.outerScopes) :
    call.1 = .writeScope ∨ call.1 = .writeTest := by
  simp only [testCalls, scopeCalls, List.mem_append, List.mem_map] at h
  obtain (⟨s, -, rfl⟩ | ⟨c, -, rfl⟩) | ⟨s, -, rfl⟩ := h
  · exact .inl rfl
  · exact .inr rfl
  · exact .inl rfl

end Standing

/-! ### Replays -/

namespace Machine

variable {b : Backend}

/-- Let a log be replayed, and replayed again with an entry at its end that says nothing. Both
replays leave the same report but for the calls, so they have written the same tests and scopes in
the same order. Up to the last message of the log, after which the session is `r.session`, the calls
are the same. From there on the second replay has one more if a test is open, the one that hands the
entry on. Then both of them stop the fixtures that run and write what is open, and the first one may
have written some of it before. -/
theorem replay_snoc_marker (hb : b.Idle) (isAfterAll : String → Bool) (synchronised : Bool)
    (contextId : String) (log : List Message) :
    ∃ p q r eager late,
      Runs (Backend.machine isAfterAll synchronised).replay
        ⟨{ contextId := contextId, log := log }, b⟩ () p
      ∧ Runs (Backend.machine isAfterAll synchronised).replay
        ⟨{ contextId := contextId, log := log ++ [.entry (.metadata [] [])] }, b⟩ () q
      ∧ Runs ((Backend.machine isAfterAll synchronised).dispatchUntil
          [.entry (.metadata [] [])] log)
        ⟨{ contextId := contextId, log := log ++ [.entry (.metadata [] [])] }, b⟩ () r
      ∧ q.world.writtenTests = p.world.writtenTests
      ∧ q.world.writtenScopeResults = p.world.writtenScopeResults
      ∧ q.world = { p.world with calls := q.world.calls }
      ∧ p.world.calls = r.world.calls
        ++ (eager ++ (r.session.fixtures.map (.stopFixture, ·) ++ late))
      ∧ q.world.calls = r.world.calls
        ++ (r.session.currentTest.toList.map (.applyMessages, ·)
          ++ (r.session.fixtures.map (.stopFixture, ·) ++ (eager ++ late)))
      ∧ ∀ call ∈ eager ++ late, call.1 = .writeScope ∨ call.1 = .writeTest := by
  have hstart := Standing.pass_initial hb contextId (log ++ [.marker])
  -- the pass before the marker
  have huntil : Runs ((Backend.machine isAfterAll synchronised).dispatchUntil [.marker] log)
      ((Standing.initial b).pass ⟨{ contextId := contextId, log := log ++ [.marker] }, b⟩) () _ :=
    runs_dispatchUntil hb.memory (Standing.sound_initial b) _ log
  rw [hstart, Standing.dispatchUntil_cons] at huntil
  obtain ⟨eager, late, hreplay, hcalls, hwrites⟩ :=
    Standing.exists_replay_snoc_marker isAfterAll log (Standing.initial b)
  refine ⟨_, _, _, eager, late, runs_replay hb isAfterAll synchronised contextId log,
    runs_replay hb isAfterAll synchronised contextId (log ++ [.marker]), huntil, ?_⟩
  -- from here on it is a matter of two lists of calls
  generalize (Standing.initial b).steps isAfterAll log = u at hreplay hcalls hwrites
  generalize (Standing.initial b).replay isAfterAll (log ++ [.marker]) = v at hreplay hcalls
  rw [hreplay]
  refine ⟨rfl, rfl, rfl, ?_, ?_, ?_⟩
  · simp [Standing.pass, Standing.report, Standing.session, Standing.stopCalls]
  -- the marker itself is applied to the open test, if there is one
  · have hmarker : (u.current.map (·.handle)).toList.map (Operation.applyMessages, ·)
        = u.markerCalls := by
      cases hc : u.current <;> simp [Standing.markerCalls, hc]
    simp [Standing.pass, Standing.report, Standing.session, hcalls, hmarker, Standing.stopCalls]
  · intro call hcall
    exact Standing.writes_of_mem (hwrites ▸ hcall)

/-- The end of a suite is the last message. It has written the scope of the test before, so the test
is written in the scope around it, and that while a hook runs and a step is open. -/
theorem replay_snoc_marker_open_test :
    (Backend.inMemory {}).Idle ∧ ∃ p q,
      Runs (Backend.machine (fun _ => false) true).replay
        ⟨{ contextId := "main"
           log := [.suiteStart "outer" false, .hookStart "set up" .before 1, .testStart "a" 2,
             .entry (.stepStart "s" 3), .suiteEnd] }, .inMemory {}⟩ () p
      ∧ Runs (Backend.machine (fun _ => false) true).replay
        ⟨{ contextId := "main"
           log := [.suiteStart "outer" false, .hookStart "set up" .before 1, .testStart "a" 2,
             .entry (.stepStart "s" 3), .suiteEnd] ++ [.entry (.metadata [] [])] },
          .inMemory {}⟩ () q
      ∧ q.world.writtenTests = p.world.writtenTests
      ∧ q.world.writtenScopeResults = p.world.writtenScopeResults
      ∧ p.world.calls.drop 5 = [(.writeScope, .drawn 2), (.writeScope, .drawn 0),
        (.writeTest, .drawn 3), (.stopFixture, .drawn 1)]
      ∧ q.world.calls.drop 5 = [(.writeScope, .drawn 2), (.applyMessages, .drawn 3),
        (.stopFixture, .drawn 1), (.writeScope, .drawn 0), (.writeTest, .drawn 3)] := by
  have hb := Backend.idle_inMemory {}
  obtain ⟨p, q, -, -, -, hp, hq, -, htests, hscopes, -⟩ :=
    replay_snoc_marker hb (fun _ => false) true "main" [.suiteStart "outer" false,
      .hookStart "set up" .before 1, .testStart "a" 2, .entry (.stepStart "s" 3), .suiteEnd]
  -- both runs are known, so their calls are computed
  obtain ⟨-, hpworld⟩ := hp.unique (runs_replay hb _ _ _ _)
  obtain ⟨-, hqworld⟩ := hq.unique (runs_replay hb _ _ _ _)
  refine ⟨hb, p, q, hp, hq, htests, hscopes, ?_, ?_⟩
  · rw [hpworld]
    rfl
  · rw [hqworld]
    rfl

end Machine

end Chronicle
