import Chronicle.Proofs.Replay.Addition
import Chronicle.Proofs.Session.Uses
import Mathlib.Data.List.Forall2

/-!
# Sessions do not interfere

Draining a registry replays its sessions one after another into one report. Each replay begins where
the last one has left nothing open, and adds what it would make of a fresh report. So the report
that comes out is made of the reports of the single sessions, one behind another, and how the
producers were interleaved does not show in it: `Workspace.finished_drainAll`.
-/
namespace Chronicle

/-- The report after the replays of sessions, one after another. -/
def Backend.replayedAll (isAfterAll : String → Bool) (sessions : List Session) (b : Backend) :
    Backend :=
  sessions.foldl (fun b s => b.replayed isAfterAll s.log) b

/-- What the report of each session adds to a report. -/
theorem Backend.finished_replayedAll {b : Backend}
    (hb : Stocked b.drawn b.fixtures b.writtenScopes) (isAfterAll : String → Bool)
    (sessions : List Session) (disk : FileTree) :
    (b.replayedAll isAfterAll sessions).finished
      = (sessions.map fun s => ((inMemory disk).replayed isAfterAll s.log).finished).foldl
        Report.followedBy b.finished := by
  induction sessions generalizing b with
  | nil => rfl
  | cons s rest ih =>
    rw [List.map_cons, List.foldl_cons, ← finished_replayed hb, ← ih (stocked_replayed hb _ _)]
    rfl

namespace Workspace

variable (isAfterAll : String → Bool) (synchronised : Bool)

/-- The replay of a session leaves it in its place. -/
private theorem exists_runs_replaySession {b : Backend} (hb : b.Idle) (r : Registry)
    (contextId : String) (log : List Message) :
    ∃ s : Session, s.contextId = contextId
      ∧ Runs (replaySession (Backend.machine isAfterAll synchronised)
          { contextId := contextId, log := log }) ⟨r, b⟩ ()
        ⟨{ r with sessions := r.sessions.map fun t => if t.contextId = contextId then s else t },
          b.replayed isAfterAll log⟩ := by
  have hreplay := Machine.runs_replay hb isAfterAll r.isSynchronised contextId log
  refine ⟨((Standing.initial b).replay isAfterAll log).session
    { contextId := contextId, log := log }, rfl, ?_⟩
  simp only [Runs, replaySession, Backend.machine] at hreplay ⊢
  rw [hreplay]
  rfl

/-- What was replayed is taken away, and only that. -/
theorem filter_replayed {s s' : Session} {rest : List Session} (hs' : s'.contextId = s.contextId)
    (hnew : s.contextId ∉ rest.map (·.contextId)) :
    ((s :: rest).map fun t => if t.contextId = s.contextId then s' else t).filter
      (·.contextId != s.contextId) = rest := by
  have hother : ∀ t ∈ rest, t.contextId ≠ s.contextId := fun t ht heq =>
    hnew (heq ▸ List.mem_map_of_mem ht)
  have hmap : rest.map (fun t => if t.contextId = s.contextId then s' else t) = rest := by
    rw [List.map_congr_left fun t ht => if_neg (hother t ht), List.map_id']
  rw [List.map_cons, if_pos rfl, hmap, List.filter_cons_of_neg (by simp [hs']), List.filter_eq_self]
  exact fun t ht => by simpa using hother t ht

private theorem runs_drainSessions {ids : List String} {log : String → List Message}
    (hids : ids.Nodup) {b : Backend} (hb : b.Idle) {r : Registry}
    (hr : r.sessions = Registry.unread ids log) :
    Runs (drainSessions (Backend.machine isAfterAll synchronised) (Registry.unread ids log)) ⟨r, b⟩
      () ⟨{ r with sessions := [] }, b.replayedAll isAfterAll (Registry.unread ids log)⟩ := by
  induction ids generalizing b r with
  | nil =>
    refine (Runs.pure _ _).endsIn ?_
    rw [show ({ r with sessions := [] } : Registry) = r by rw [← show r.sessions = [] from hr]]
    rfl
  | cons id rest ih =>
    obtain ⟨hnew, hrest⟩ := List.nodup_cons.1 hids
    obtain ⟨s, hs, hreplay⟩ :=
      exists_runs_replaySession isAfterAll synchronised hb r id (log id)
    have hnew' : id ∉ (Registry.unread rest log).map (·.contextId) := by
      simpa [Registry.unread, Function.comp_def] using hnew
    have hfilter := filter_replayed (s := { contextId := id, log := log id }) hs hnew'
    -- the session that was replayed is taken out of the registry
    have hleft : ((r.sessions.map fun t => if t.contextId = id then s else t).filter
        (·.contextId != id)) = Registry.unread rest log := by
      rw [hr]
      exact hfilter
    -- a report takes no notes, so nothing happens before the rest is drained
    refine .bind hreplay (.bind (.change _ _) (.bind (.get _) (.bind (a := ()) rfl ?_)))
    exact ih hrest (hb.report_replay isAfterAll (log id) _) hleft

/-- Draining a registry whose sessions have not been replayed empties it. -/
theorem runs_drainAll {ids : List String} {log : String → List Message} (hids : ids.Nodup)
    {b : Backend} (hb : b.Idle) {r : Registry} (hr : r.sessions = Registry.unread ids log) :
    Runs (drainAll (Backend.machine isAfterAll synchronised)) ⟨r, b⟩ ()
      ⟨{ r with sessions := [], draining := false },
        b.replayedAll isAfterAll (Registry.unread ids log)⟩ := by
  have hdrain := runs_drainSessions isAfterAll synchronised hids hb
    (r := { r with draining := true }) hr
  rw [← hr] at hdrain ⊢
  simp only [Runs, drainAll] at hdrain ⊢
  rw [hdrain]

/-- What the registry and the report become in the end does not depend on who came when. -/
theorem runs_drainAll_useAll {defaultContext : String} {r : Registry}
    (hr : Registry.create defaultContext = .ok r) (disk : FileTree) (uses : List Registry.Use) :
    Runs (drainAll (Backend.machine isAfterAll synchronised)) ⟨r.useAll uses, .inMemory disk⟩ ()
      ⟨r, (Backend.inMemory disk).replayedAll isAfterAll
        (Registry.unread (r.contexts uses) fun id => r.messagesOf id uses)⟩ := by
  obtain ⟨-, rfl⟩ := Registry.eq_of_create hr
  refine (runs_drainAll isAfterAll synchronised (Registry.nodup_contexts _ uses)
    (Backend.idle_inMemory disk) (Registry.sessions_useAll rfl uses)).endsIn ?_
  rw [Registry.defaultContext_useAll]

/-- Whatever producers push into a new registry, in any order and for any contexts, draining it
empties it. The report says what the contexts would be reported to do one by one, each from its own
messages in a fresh report, in the order of first use and under handles that go on where those of
the context before end. So it tells nothing else about the order in which the producers came. No
context, the empty one and the default are the same context. -/
theorem finished_drainAll {defaultContext : String} {r : Registry}
    (hr : Registry.create defaultContext = .ok r) (disk : FileTree) (uses : List Registry.Use) :
    ∃ w reports, Runs (drainAll (Backend.machine isAfterAll synchronised))
        ⟨r.useAll uses, .inMemory disk⟩ () w
      ∧ w.registry.sessions = []
      ∧ List.Forall₂ (fun id report => ∃ p,
          Runs (Backend.machine isAfterAll synchronised).replay
            ⟨{ contextId := id, log := r.messagesOf id uses }, .inMemory {}⟩ () p
          ∧ p.world.finished = report) (r.contexts uses) reports
      ∧ w.world.finished = .concat reports
      ∧ (∀ uses', r.contexts uses' = r.contexts uses →
          (∀ id ∈ r.contexts uses, r.messagesOf id uses' = r.messagesOf id uses) →
          Runs (drainAll (Backend.machine isAfterAll synchronised))
            ⟨r.useAll uses', .inMemory disk⟩ () w)
      ∧ (∀ contextId ∈ [none, some "", some defaultContext],
          r.resolve contextId = defaultContext)
      ∧ ∀ id ≠ "", r.resolve (some id) = id := by
  have hrun := runs_drainAll_useAll isAfterAll synchronised hr disk
  have hfinished := Backend.finished_replayedAll (Backend.stocked_inMemory disk) isAfterAll
    (Registry.unread (r.contexts uses) fun id => r.messagesOf id uses) {}
  obtain ⟨hdefault, rfl⟩ := Registry.eq_of_create hr
  refine ⟨_, _, hrun uses, rfl, ?_, hfinished, fun uses' hcontexts hmessages => ?_, ?_, ?_⟩
  -- each session is replayed as it would be by itself
  · rw [Registry.unread, List.map_map, List.forall₂_map_right_iff, List.forall₂_same]
    intro id _
    exact ⟨_, Machine.runs_replay (Backend.idle_inMemory {}) isAfterAll synchronised id _, rfl⟩
  · -- the report depends on the contexts and their messages only
    have hsame := hrun uses'
    rw [hcontexts] at hsame
    refine hsame.endsIn ?_
    rw [Registry.unread, List.map_congr_left fun id hid => by rw [hmessages id hid]]
    rfl
  -- the three ways to say no context
  · simp [Registry.resolve, hdefault]
  · intro id hid
    simp [Registry.resolve, hid]

/-- Two contexts push in turns, one of them under the names of the default. -/
theorem finished_drainAll_turns :
    Registry.create "0-0" = .ok { defaultContext := "0-0" } ∧ ∃ w reports,
      Runs (drainAll (Backend.machine (fun _ => false) true))
        ⟨({ defaultContext := "0-0" } : Registry).useAll
          [.push none (.suiteStart "outer" true), .push (some "1-0") (.testStart "b" 1),
            .push (some "") (.testStart "a" 2), .getOrCreate (some "2-0"),
            .push (some "1-0") .suiteEnd, .push (some "0-0") .suiteEnd], .inMemory {}⟩ () w
      ∧ w.registry.sessions = []
      ∧ w.world.finished = .concat reports := by
  have hr : Registry.create "0-0" = .ok { defaultContext := "0-0" } := rfl
  obtain ⟨w, reports, hruns, hempty, -, hfinished, -⟩ :=
    finished_drainAll (fun _ => false) true hr {}
      [.push none (.suiteStart "outer" true), .push (some "1-0") (.testStart "b" 1),
        .push (some "") (.testStart "a" 2), .getOrCreate (some "2-0"),
        .push (some "1-0") .suiteEnd, .push (some "0-0") .suiteEnd]
  exact ⟨hr, w, reports, hruns, hempty, hfinished⟩

end Workspace

end Chronicle
