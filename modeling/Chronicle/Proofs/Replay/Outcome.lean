import Chronicle.Proofs.Replay.Refinement

/-!
# What a replay leaves

A replay that starts with nothing open succeeds and leaves nothing open, so the next one finds a
report as it should be. `Backend.BetweenReplays` are the reports that come up in this way.
-/
namespace Chronicle

/-- A report in memory in which nothing is open. -/
structure Backend.Idle (b : Backend) : Prop where
  memory : b.destination = .memory
  scopes : b.scopes = []
  tests : b.tests = []
  running : b.running = []

namespace Standing

/-- What the replay of a log does to a standing. -/
def replay (isAfterAll : String → Bool) (log : List Message) (st : Standing) : Standing :=
  (st.dispatchAll isAfterAll log).settle

/-- A replay is made of moves. -/
theorem moves_replay (isAfterAll : String → Bool) (log : List Message) (st : Standing) :
    Moves st (st.replay isAfterAll log) :=
  (moves_dispatchAll isAfterAll log st).trans (moves_settle _)

/-- The start of a replay is sound. -/
theorem sound_initial (b : Backend) : (initial b).Sound :=
  ⟨List.nodup_nil, fun _ hmem => absurd hmem List.not_mem_nil⟩

/-- A replay that has not begun has made nothing of its session and report. -/
theorem pass_initial {b : Backend} (hb : b.Idle) (contextId : String) (log : List Message) :
    (initial b).pass ⟨{ contextId := contextId, log := log }, b⟩
      = ⟨{ contextId := contextId, log := log }, b⟩ := by
  obtain ⟨-, hscopes, htests, hrunning⟩ := hb
  simp [pass, session, report, initial, unended, stepCount, ← hscopes, ← htests, ← hrunning]

/-- No fixture runs once those left have been stopped. -/
private theorem running_stopFixtures {fixtures : List Handle} {st : Standing}
    (hf : st.running = fixtures) :
    (st.stopFixtures fixtures).running = [] := by
  induction fixtures generalizing st with
  | nil => exact hf
  | cons h rest ih => exact ih (by simp only [stopFixture, hf])

/-- No scope is open once those left have been closed. -/
theorem scopes_closeScopes {scopes : List Scope} {st : Standing} (hc : st.scopes = scopes) :
    (st.closeScopes scopes).scopes = [] := by
  induction scopes generalizing st with
  | nil => exact hc
  | cons s rest ih => exact ih (by simp only [closeScope, hc])

/-- A scope that is closed stops no fixture. -/
theorem running_closeScope (st : Standing) : st.closeScope.running = st.running := by
  cases hc : st.scopes <;> simp [closeScope, hc]

/-- Nor does a test that is finalized. -/
theorem running_finalize (st : Standing) : st.finalize.running = st.running := by
  cases hc : st.current with
  | none => simp only [finalize, hc]
  | some c => simp only [finalize, writeTest, hc, current_closeScope, running_closeScope]

/-- Closing scopes leaves the test and the fixtures alone. -/
theorem frame_closeScopes (scopes : List Scope) (st : Standing) :
    (st.closeScopes scopes).current = st.current
      ∧ (st.closeScopes scopes).running = st.running := by
  induction scopes generalizing st with
  | nil => exact ⟨rfl, rfl⟩
  | cons s rest ih =>
    obtain ⟨hcurrent, hrunning⟩ := ih st.closeScope
    exact ⟨hcurrent.trans (current_closeScope st), hrunning.trans (running_closeScope st)⟩

/-- Nothing stays open at the end of a replay. -/
theorem held_settle (st : Standing) : st.settle.held = [] := by
  obtain ⟨hcurrent, hrunning⟩ := frame_closeScopes
    (st.stopFixtures st.running).finalize.scopes (st.stopFixtures st.running).finalize
  rw [current_finalize] at hcurrent
  rw [running_finalize, running_stopFixtures rfl] at hrunning
  simp only [held, settle, scopes_closeScopes, hcurrent, hrunning]
  rfl

end Standing

/-- The replay of a session that holds nothing open, into a report in memory in which nothing is
open, succeeds; its session and report end as its standing says. -/
theorem Machine.runs_replay {b : Backend} (hb : b.Idle) (isAfterAll : String → Bool)
    (synchronised : Bool) (contextId : String) (log : List Message) :
    Runs (Backend.machine isAfterAll synchronised).replay
      ⟨{ contextId := contextId, log := log }, b⟩ ()
      (((Standing.initial b).replay isAfterAll log).pass
        ⟨{ contextId := contextId, log := log }, b⟩) := by
  have hs := Standing.sound_initial b
  have hmoves := Standing.moves_dispatchAll isAfterAll log (Standing.initial b)
  have hs' := Standing.Moves.sound hmoves hs
  -- in general first, since the session occurs in what is to be run
  have hrun : ∀ {p : Pass Backend}, p.world.destination = .memory → p.session.log = log →
      Runs (Backend.machine isAfterAll synchronised).replay ((Standing.initial b).pass p) ()
        (((Standing.initial b).replay isAfterAll log).pass p) := by
    rintro p hm rfl
    refine .bind (runs_session _) (.bind (runs_dispatchAll hm hs _) ?_)
    exact .bind (runs_settle hm hs') (runs_remark _ _)
  have hstart := hrun (p := ⟨{ contextId := contextId, log := log }, b⟩) hb.memory rfl
  rwa [Standing.pass_initial hb contextId log] at hstart

/-! ### One replay after another -/

namespace Backend

/-- A report in memory that has been used for nothing but replays, all of which have succeeded: each
one of a session that held nothing open. -/
inductive BetweenReplays : Backend → Prop
  | fresh (disk : FileTree) : BetweenReplays (.inMemory disk)
  | replayed {b : Backend} (hb : BetweenReplays b) {isAfterAll : String → Bool}
      {synchronised : Bool} {contextId : String} {log : List Message} {p : Pass Backend}
      (h : Runs (machine isAfterAll synchronised).replay
        ⟨{ contextId := contextId, log := log }, b⟩ () p) : BetweenReplays p.world

/-- A new report is idle. -/
theorem idle_inMemory (disk : FileTree) : (inMemory disk).Idle :=
  ⟨rfl, rfl, rfl, rfl⟩

/-- What a replay leaves is idle. -/
theorem Idle.report_replay {b : Backend} (hb : b.Idle) (isAfterAll : String → Bool)
    (log : List Message) (st : Standing) : ((st.replay isAfterAll log).report b).Idle := by
  have hheld := Standing.held_settle (st.dispatchAll isAfterAll log)
  simp only [Standing.held, List.append_eq_nil_iff, List.map_eq_nil_iff] at hheld
  obtain ⟨hscopes, hcurrent, hrunning⟩ := hheld
  refine ⟨hb.memory, ?_, ?_, hrunning⟩
  · simp only [Standing.report, Standing.replay, hscopes, List.map_nil]
  · simp only [Standing.report, Standing.replay, hcurrent, List.map_nil]

/-- A report between replays is idle. -/
theorem BetweenReplays.idle {b : Backend} (hb : b.BetweenReplays) : b.Idle := by
  induction hb with
  | fresh disk => exact idle_inMemory disk
  | replayed _ h ih =>
    obtain ⟨-, rfl⟩ := h.unique (Machine.runs_replay ih _ _ _ _)
    exact ih.report_replay _ _ _

end Backend

end Chronicle
