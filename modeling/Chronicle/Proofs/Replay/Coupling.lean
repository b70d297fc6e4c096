import Chronicle.Proofs.Replay.Outcome

/-!
# The session and its report agree

A session and the report that it is replayed into keep the same things apart from each other: the
session as stacks of handles, a pointer to the open test and a count of open steps, the report as
tables. `Coupled` says that they agree. It holds at every moment between two messages, so no message
forgets one side: `Machine.coupled_of_dispatch`.

`Machine.dispatchUntil` replays a log up to some such moment. Which message is the last one is
decided by the whole log, not by the part that has been replayed.
-/
namespace Chronicle

/-- The bookkeeping of a session is what a report holds open. Lists of handles have what was opened
last in front. -/
structure Coupled (s : Session) (b : Backend) : Prop where
  scopes : s.scopes = b.scopes.handles
  /-- At most one test is open, and it is the one that the session points to. -/
  tests : b.tests.handles = s.currentTest.toList
  executables : s.executables = [] ∨ ∃ test, s.currentTest = some test ∧ s.executables = [test]
  fixtures : s.fixtures = b.running
  openSteps : ∀ test, s.currentTest = some test →
    ∃ t, b.tests.get? test = some t ∧ s.openSteps = t.openSteps.length
  noSteps : s.currentTest = none → s.openSteps = 0

namespace Machine

variable {σ ε : Type}

/-- Replays the messages of a log that come before `rest`. -/
def dispatchUntil (m : Machine σ ε) (rest : List Message) : List Message → Replay σ ε Unit
  | [] => pure ()
  | message :: between => do
    m.dispatch (between ++ rest).isEmpty message
    m.dispatchUntil rest between

/-- A log is replayed up to a moment, and then from there on. -/
private theorem dispatchAll_append (m : Machine σ ε) (log rest : List Message) :
    m.dispatchAll (log ++ rest) = (do
      m.dispatchUntil rest log
      m.dispatchAll rest) := by
  induction log with
  | nil => simp only [List.nil_append, dispatchUntil, pure_bind]
  | cons message between ih =>
    rw [List.cons_append, dispatchAll, dispatchUntil, ih, bind_assoc]

end Machine

/-- What a standing stands for agrees, since it keeps everything once. -/
theorem Standing.coupled (st : Standing) (s : Session) (b : Backend) :
    Coupled (st.session s) (st.report b) := by
  refine
    { scopes := ?_
      tests := ?_
      executables := ?_
      fixtures := rfl
      openSteps := ?_
      noSteps := ?_ }
  · simp [session, report, Table.handles]
  · cases hc : st.current <;> simp [session, report, Table.handles, hc]
  · -- the test leaves the executables when it ends, and stays open
    rcases hc : st.current with _ | ⟨t, _ | _⟩
    · exact .inl (by simp only [session, unended, hc])
    · exact .inr ⟨t.result.handle, by simp [session, unended, hc, Current.handle]⟩
    · exact .inl (by simp only [session, unended, hc])
  -- the steps that the session counts are those the test holds open
  · intro test htest
    obtain ⟨c, hc, rfl⟩ := Option.map_eq_some_iff.1 htest
    exact ⟨c.test, get?_tests_report hc, by simp only [session, stepCount, hc]⟩
  -- with no test no step is counted
  · intro hnone
    have hc : st.current = none := Option.map_eq_none_iff.1 hnone
    simp only [session, stepCount, hc]

/-- A standing is left wherever a replay is interrupted. -/
private theorem Machine.exists_runs_dispatchUntil (isAfterAll : String → Bool) (synchronised : Bool)
    {p : Pass Backend} {st : Standing} (hm : p.world.destination = .memory) (hs : st.Sound)
    (rest log : List Message) :
    ∃ st' : Standing, Runs ((Backend.machine isAfterAll synchronised).dispatchUntil rest log)
      (st.pass p) () (st'.pass p) := by
  induction log generalizing st with
  | nil => exact ⟨st, .pure () _⟩
  | cons message between ih =>
    have hmoves := Standing.moves_dispatch isAfterAll (between ++ rest).isEmpty message st
    obtain ⟨st', hrest⟩ := ih (Standing.Moves.sound hmoves hs)
    exact ⟨st', .bind (runs_dispatch hm hs _ message) hrest⟩

/-- The replay of any log into a report in memory in which nothing is open can be followed up to any
moment between two messages. There the session and the report agree, and the rest of the replay goes
on from there. -/
theorem Machine.coupled_of_dispatch {b : Backend} (hb : b.Idle) (isAfterAll : String → Bool)
    (synchronised : Bool) (contextId : String) (log rest : List Message) :
    ∃ p, Runs ((Backend.machine isAfterAll synchronised).dispatchUntil rest log)
        ⟨{ contextId := contextId, log := log ++ rest }, b⟩ () p
      ∧ Coupled p.session p.world
      ∧ (Backend.machine isAfterAll synchronised).replay
          ⟨{ contextId := contextId, log := log ++ rest }, b⟩
        = (do
            (Backend.machine isAfterAll synchronised).dispatchAll rest
            (Backend.machine isAfterAll synchronised).settle
            (Backend.machine isAfterAll synchronised).remark
              (.replayFinished (log ++ rest).length)) p := by
  have hs := Standing.sound_initial b
  have hstart := Standing.pass_initial hb contextId (log ++ rest)
  -- the messages so far lead to a standing, and what is left goes on from it
  obtain ⟨st, hruns⟩ := exists_runs_dispatchUntil isAfterAll synchronised
    (p := ⟨{ contextId := contextId, log := log ++ rest }, b⟩) hb.memory hs rest log
  rw [hstart] at hruns
  refine ⟨_, hruns, st.coupled _ b, ?_⟩
  -- the session is read first, and its log is taken apart at the moment
  have hreplay : (Backend.machine isAfterAll synchronised).replay
      ⟨{ contextId := contextId, log := log ++ rest }, b⟩
    = (do
        (Backend.machine isAfterAll synchronised).dispatchAll (log ++ rest)
        (Backend.machine isAfterAll synchronised).settle
        (Backend.machine isAfterAll synchronised).remark (.replayFinished (log ++ rest).length))
      ⟨{ contextId := contextId, log := log ++ rest }, b⟩ := rfl
  rw [hreplay, dispatchAll_append, bind_assoc]
  exact hruns.bind_eq _

/-- A suite has ended while a test with an open step is still to be finalized. -/
theorem Machine.coupled_of_open_step :
    (Backend.inMemory {}).Idle ∧ ∃ p,
      Runs ((Backend.machine (fun _ => false) true).dispatchUntil [.suiteEnd]
          [.suiteStart "outer" false, .testStart "a" 1, .entry (.stepStart "s" 2), .suiteEnd])
        ⟨{ contextId := "main"
           log := [.suiteStart "outer" false, .testStart "a" 1, .entry (.stepStart "s" 2),
             .suiteEnd, .suiteEnd] },
          .inMemory {}⟩ () p
      ∧ Coupled p.session p.world := by
  have hb := Backend.idle_inMemory {}
  obtain ⟨p, hruns, hcoupled, -⟩ :=
    coupled_of_dispatch hb (fun _ => false) true "main"
      [.suiteStart "outer" false, .testStart "a" 1, .entry (.stepStart "s" 2), .suiteEnd]
      [.suiteEnd]
  exact ⟨hb, p, hruns, hcoupled⟩

end Chronicle
