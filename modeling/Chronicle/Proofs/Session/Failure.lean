import Chronicle.Proofs.Report.Interruption
import Chronicle.Proofs.Session.Draining

/-!
# Drains that fail

A drain that fails has drained the sessions before the one that failed, and it has not touched those
after it: `Workspace.Interrupted`.
-/
namespace Chronicle

variable {σ τ ε δ : Type}

namespace Workspace

/-- A drain of the sessions `earlier ++ s :: later` has failed while it replayed `s`, of which `s'`
is left. The reporter was at `v` by then. -/
structure Interrupted (m : Machine σ ε) (start : Workspace σ) (e : ε) (w : Workspace σ)
    (earlier : List Session) (s s' : Session) (later : List Session) (v : σ) : Prop where
  sessions : start.registry.sessions = earlier ++ s :: later
  /-- The sessions before are drained as if they were all there are. -/
  drained : Runs (drainAll m) ⟨{ start.registry with sessions := earlier }, start.world⟩ ()
    ⟨{ start.registry with sessions := [], draining := false }, v⟩
  /-- Nothing has happened after the replay that failed. -/
  replay : ({ m with synchronised := false } : Machine σ ε).replay ⟨s, v⟩ = .error e ⟨s', w.world⟩
  sameLog : s.SameLog s'
  /-- The session that failed is left with those after it, and these are what they were. -/
  registry : w.registry = { start.registry with sessions := s' :: later, draining := false }

/-! ### One session -/

variable {m : Machine σ ε} {P : σ → σ → Prop} {r : Registry} {s : Session} {rest : List Session}
  {world : σ} {q : Pass σ} {e : ε}

private theorem map_replayed {s' : Session} (hs' : s.SameLog s')
    (hnew : s.contextId ∉ rest.map (·.contextId)) :
    (s :: rest).map (fun t => if t.contextId = s'.contextId then s' else t) = s' :: rest := by
  have hother : ∀ t ∈ rest, t.contextId ≠ s'.contextId := by
    intro t ht heq
    exact hnew (hs'.contextId ▸ heq ▸ List.mem_map_of_mem ht)
  rw [List.map_cons, if_pos hs'.contextId.symm,
    List.map_congr_left fun t ht => if_neg (hother t ht), List.map_id']

private theorem runs_replaySession (hr : r.sessions = s :: rest)
    (hnew : s.contextId ∉ rest.map (·.contextId))
    (hreplay : Runs ({ m with synchronised := r.isSynchronised } : Machine σ ε).replay ⟨s, world⟩ ()
      q) (hlog : s.SameLog q.session) :
    Runs (replaySession m s) ⟨r, world⟩ () ⟨{ r with sessions := q.session :: rest }, q.world⟩ := by
  simp only [Runs, replaySession] at hreplay ⊢
  rw [hreplay]
  simp only [hr, map_replayed hlog hnew]

theorem error_replaySession (hr : r.sessions = s :: rest)
    (hnew : s.contextId ∉ rest.map (·.contextId))
    (hreplay : ({ m with synchronised := r.isSynchronised } : Machine σ ε).replay ⟨s, world⟩
      = .error e q) (hlog : s.SameLog q.session) :
    replaySession m s ⟨r, world⟩
      = .error e ⟨{ r with sessions := q.session :: rest }, q.world⟩ := by
  simp only [replaySession, hreplay, hr, map_replayed hlog hnew]

/-- When a session has been replayed, a note is taken, and the others are drained without it. -/
theorem drainSessions_cons (hr : r.sessions = s :: rest)
    (hnew : s.contextId ∉ rest.map (·.contextId))
    (hreplay : Runs ({ m with synchronised := r.isSynchronised } : Machine σ ε).replay ⟨s, world⟩ ()
      q) (hlog : s.SameLog q.session) {world' : σ}
    (hnote : Runs (m.reporter.note r.isSynchronised ⟨s.contextId, .sessionDrained s.log.length⟩)
      q.world () world') :
    drainSessions m (s :: rest) ⟨r, world⟩
      = drainSessions m rest ⟨{ r with sessions := rest }, world'⟩ := by
  have hdone := runs_replaySession hr hnew hreplay hlog
  -- the registry keeps the session until its replay is over
  have hleft : (q.session :: rest).filter (·.contextId != s.contextId) = rest := by
    rw [← map_replayed hlog hnew]
    simp only [hlog.contextId]
    exact filter_replayed hlog.contextId hnew
  have hremoved : Runs (changeRegistry (fun r =>
        { r with sessions := r.sessions.filter (·.contextId != s.contextId) }) :
          EStateM ε (Workspace σ) Unit)
      ⟨{ r with sessions := q.session :: rest }, q.world⟩ ()
      ⟨{ r with sessions := rest }, q.world⟩ :=
    (Runs.change _ _).endsIn (by simp only [hleft])
  -- and the note is the last thing done for it
  have hnoted : Runs (Reporter.onPart Workspace.world (fun world w => { w with world := world }) id
        (m.reporter.note r.isSynchronised ⟨s.contextId, .sessionDrained s.log.length⟩))
      (⟨{ r with sessions := rest }, q.world⟩ : Workspace σ) ()
      ⟨{ r with sessions := rest }, world'⟩ := by
    simp only [Runs, Reporter.onPart] at hnote ⊢
    rw [hnote]
  exact (hdone.bind_eq _).trans
    ((hremoved.bind_eq _).trans (((Runs.get _).bind_eq _).trans (hnoted.bind_eq _)))

/-! ### All sessions -/

theorem replay_traced (hP : m.reporter.Advances P) (synchronised : Bool) (p : Pass σ) :
    m.Traced P p (({ m with synchronised := synchronised } : Machine σ ε).replay p) := by
  have hP' : ({ m with synchronised := synchronised } : Machine σ ε).reporter.Advances P := hP
  have hparallel := Machine.Parallel.replay
    (rfl : ({ m with synchronised := synchronised } : Machine σ ε).isAfterAll = m.isAfterAll)
  exact hparallel.traced hP' p

/-- Sessions are drained up to the end, or up to one whose replay fails. -/
private theorem drainSessions_traced (hP : m.reporter.Advances P) {sessions : List Session}
    (hids : (sessions.map (·.contextId)).Nodup) (hr : r.sessions = sessions) (world : σ) :
    (∃ w, Runs (drainSessions m sessions) ⟨r, world⟩ () w ∧ w.registry = { r with sessions := [] }
      ∧ P world w.world)
    ∨ ∃ e w earlier s s' later v, drainSessions m sessions ⟨r, world⟩ = .error e w
      ∧ sessions = earlier ++ s :: later
      ∧ Runs (drainSessions m earlier) ⟨{ r with sessions := earlier }, world⟩ ()
        ⟨{ r with sessions := [] }, v⟩
      ∧ ({ m with synchronised := r.isSynchronised } : Machine σ ε).replay ⟨s, v⟩
        = .error e ⟨s', w.world⟩
      ∧ s.SameLog s' ∧ w.registry = { r with sessions := s' :: later }
      ∧ m.reporter.FailsAfter P world e w.world := by
  induction sessions generalizing r world with
  | nil =>
    refine .inl ⟨⟨r, world⟩, .pure _ _, ?_, hP.refl world⟩
    rw [← hr]
  | cons s rest ih =>
    obtain ⟨hnew, hrest⟩ := List.nodup_cons.1 hids
    have htraced := replay_traced hP r.isSynchronised ⟨s, world⟩
    cases hreplay : ({ m with synchronised := r.isSynchronised } : Machine σ ε).replay
        ⟨s, world⟩ with
    -- the replay of this session fails, and the later ones stay
    | error e q =>
      rw [hreplay] at htraced
      obtain ⟨hlog, hfails⟩ := htraced
      refine .inr ⟨e, _, [], s, q.session, rest, world,
        error_of_bind (error_replaySession hr hnew hreplay hlog) _, rfl, .pure _ _, hreplay, hlog,
        rfl, hfails⟩
    -- the replay returns, so the drain goes on with the rest
    | ok u q =>
      rw [hreplay] at htraced
      obtain ⟨hlog, hPq⟩ := htraced
      obtain ⟨world', hnote, hPnote⟩ := hP.note r.isSynchronised
        ⟨s.contextId, .sessionDrained s.log.length⟩ q.world
      have hPworld := hP.trans hPq hPnote
      have hcons := drainSessions_cons hr hnew hreplay hlog hnote
      rcases ih hrest (r := { r with sessions := rest }) rfl world' with
        ⟨w, hruns, hregistry, hPw⟩ | ⟨e, w, earlier, t, t', later, v, herror, rfl, hearlier,
          hfailed, htlog, hregistry, u, hPu, hcall⟩
      · exact .inl ⟨w, hcons.trans hruns, hregistry, hP.trans hPworld hPw⟩
      · -- the session at hand is one of those that are drained before the failure
        have hnew' : s.contextId ∉ earlier.map (·.contextId) := by
          intro hmem
          exact hnew (by rw [List.map_append]; exact List.mem_append_left _ hmem)
        have hdrained := drainSessions_cons (r := { r with sessions := s :: earlier }) rfl hnew'
          hreplay hlog hnote
        exact .inr ⟨e, w, s :: earlier, t, t', later, v, hcons.trans herror, rfl,
          hdrained.trans hearlier, hfailed, htlog, hregistry, u, hP.trans hPworld hPu, hcall⟩

/-- A registry is drained by draining its sessions. -/
theorem runs_drainAll_of_drainSessions {sessions : List Session} (hr : r.sessions = sessions)
    {w : Workspace σ}
    (h : Runs (drainSessions m sessions) ⟨{ r with draining := true }, world⟩ () w) :
    Runs (drainAll m) ⟨r, world⟩ () ⟨{ w.registry with draining := false }, w.world⟩ := by
  subst hr
  simp only [Runs, drainAll] at h ⊢
  rw [h]

/-- It is synchronised again when that fails, too. -/
theorem error_drainAll_of_drainSessions {sessions : List Session} (hr : r.sessions = sessions)
    {w : Workspace σ}
    (h : drainSessions m sessions ⟨{ r with draining := true }, world⟩ = .error e w) :
    drainAll m ⟨r, world⟩ = .error e ⟨{ w.registry with draining := false }, w.world⟩ := by
  subst hr
  simp only [drainAll]
  rw [h]

/-- A drain empties the registry, or it fails in a call that the replay of a session has made. -/
theorem drainAll_traced (hP : m.reporter.Advances P) {start : Workspace σ}
    (hids : (start.registry.sessions.map (·.contextId)).Nodup) :
    (∃ w, Runs (drainAll m) start () w
      ∧ w.registry = { start.registry with sessions := [], draining := false }
      ∧ P start.world w.world)
    ∨ ∃ e w earlier s s' later v, drainAll m start = .error e w
      ∧ Interrupted m start e w earlier s s' later v
      ∧ m.reporter.FailsAfter P start.world e w.world := by
  obtain ⟨r, world⟩ := start
  rcases drainSessions_traced hP hids (r := { r with draining := true }) rfl world with
    ⟨w, hruns, hregistry, hPw⟩ | ⟨e, w, earlier, s, s', later, v, herror, hsessions, hearlier,
      hreplay, hlog, hregistry, hfails⟩
  · exact .inl ⟨_, runs_drainAll_of_drainSessions rfl hruns, by rw [hregistry], hPw⟩
  · have hdrained := runs_drainAll_of_drainSessions (r := { r with sessions := earlier }) rfl
      hearlier
    exact .inr ⟨e, _, earlier, s, s', later, v, error_drainAll_of_drainSessions rfl herror,
      ⟨hsessions, hdrained, hreplay, hlog, by rw [hregistry]⟩, hfails⟩

/-! ### Compared to another drain -/

section

variable {m' : Machine τ δ} {R V : σ → τ → Prop}
  (hcall : ∀ {γ : Type} (c : Call γ), Curtails R V (c.run m.reporter) (c.run m'.reporter))
  (hnote : ∀ flag flag' n, Curtails R V (m.reporter.note flag n) (m'.reporter.note flag' n))
  (hafter : m.isAfterAll = m'.isAfterAll)

include hcall hnote hafter

private theorem curtails_replaySession (s : Session) :
    Curtails (Workspace.Related R) (fun w v => V w.world v.world) (replaySession m s)
      (replaySession m' s) := by
  have hreplay : ∀ flag flag', Curtails (Pass.Related R) (fun p q => V p.world q.world)
      ({ m with synchronised := flag } : Machine σ ε).replay
      ({ m' with synchronised := flag' } : Machine τ δ).replay := by
    intro flag flag'
    have hafter' : ({ m with synchronised := flag } : Machine σ ε).isAfterAll
        = ({ m' with synchronised := flag' } : Machine τ δ).isAfterAll := hafter
    -- a replay is one script for both machines
    refine Machine.Parallel.curtails ?_ ?_ (Machine.Parallel.replay hafter')
    · exact hcall
    · exact hnote
  refine ⟨?_, ?_⟩
  · rintro ⟨r, world⟩ a v hruns w hw
    simp only [Runs, replaySession] at hruns
    cases hruns' : ({ m' with synchronised := r.isSynchronised } : Machine τ δ).replay
        ⟨s, world⟩ with
    -- a replay that fails is no run
    | error e q =>
      rw [hruns'] at hruns
      cases hruns
    | ok b q =>
      rw [hruns'] at hruns
      cases hruns
      exact (hreplay true r.isSynchronised).grows hruns' ⟨s, w.world⟩ hw
  · rintro ⟨r, world⟩ ⟨r', world'⟩ ⟨rfl, hworld⟩ a v hruns
    simp only [Runs, replaySession] at hruns ⊢
    cases hruns' : ({ m' with synchronised := r.isSynchronised } : Machine τ δ).replay
        ⟨s, world'⟩ with
    | error e q =>
      rw [hruns'] at hruns
      cases hruns
    | ok b q =>
      rw [hruns'] at hruns
      cases hruns
      have hstart : Pass.Related R ⟨s, world⟩ ⟨s, world'⟩ := ⟨rfl, hworld⟩
      -- the other replay does the same, or is cut short
      rcases (hreplay r.isSynchronised r.isSynchronised).outcome hstart hruns' with
        ⟨p, hp, hpq⟩ | ⟨e, p, hp, hbefore⟩
      · left
        rw [Runs] at hp
        rw [hp]
        exact ⟨_, rfl, ⟨by rw [hpq.session], hpq.world⟩⟩
      · right
        rw [hp]
        exact ⟨e, _, rfl, hbefore⟩

private theorem curtails_drainSessions (hrelated : ∀ t, ∃ s, R s t) (sessions : List Session) :
    Curtails (Workspace.Related R) (fun w v => V w.world v.world) (drainSessions m sessions)
      (drainSessions m' sessions) := by
  have hchange : ∀ f : Registry → Registry, Curtails (Workspace.Related R)
      (fun w v => V w.world v.world) (changeRegistry f : EStateM ε (Workspace σ) Unit)
      (changeRegistry f : EStateM δ (Workspace τ) Unit) := fun f =>
    .change (fun _ _ hwv => ⟨congrArg f hwv.registry, hwv.world⟩) fun _ _ hwv => hwv
  induction sessions with
  | nil => exact .pure ()
  | cons s rest ih =>
    -- the replay, the taking out of the session, and the note
    refine .bind (curtails_replaySession hcall hnote hafter s) fun _ => ?_
    refine .bind (hchange _) fun _ => .get (fun v => ?_) fun w v hwv => ?_
    · obtain ⟨world, hworld⟩ := hrelated v.world
      exact ⟨⟨v.registry, world⟩, rfl, hworld⟩
    · refine .bind (.onPart (fun _ _ hwv => hwv.world) (fun _ _ _ _ hwv hst => ?_)
        (fun _ _ => .rfl) (fun _ _ => rfl) (fun _ _ => rfl) (hnote _ _ _)) fun _ => ih
      exact ⟨hwv.registry, hst⟩

/-- If calls curtail those of another reporter, draining a registry does so, too. -/
private theorem curtails_drainAll (hrelated : ∀ t, ∃ s, R s t) :
    Curtails (Workspace.Related R) (fun w v => V w.world v.world) (drainAll m) (drainAll m') := by
  refine ⟨?_, ?_⟩
  · rintro ⟨r, world⟩ a v hruns w hw
    simp only [Runs, drainAll] at hruns
    cases hruns' : drainSessions m' r.sessions ⟨{ r with draining := true }, world⟩ with
    | error e v' =>
      rw [hruns'] at hruns
      cases hruns
    | ok b v' =>
      rw [hruns'] at hruns
      cases hruns
      exact (curtails_drainSessions hcall hnote hafter hrelated r.sessions).grows hruns' w hw
  · rintro ⟨r, world⟩ ⟨r', world'⟩ ⟨rfl, hworld⟩ a v hruns
    simp only [Runs, drainAll] at hruns ⊢
    cases hruns' : drainSessions m' r.sessions ⟨{ r with draining := true }, world'⟩ with
    | error e v' =>
      rw [hruns'] at hruns
      cases hruns
    | ok b v' =>
      rw [hruns'] at hruns
      cases hruns
      have hstart : Workspace.Related R ⟨{ r with draining := true }, world⟩
          ⟨{ r with draining := true }, world'⟩ := ⟨rfl, hworld⟩
      -- the other drain does the same, or is cut short
      rcases (curtails_drainSessions hcall hnote hafter hrelated r.sessions).outcome hstart hruns'
        with ⟨w, hw, hwv⟩ | ⟨e, w, hw, hbefore⟩
      · left
        rw [Runs] at hw
        rw [hw]
        exact ⟨_, rfl, ⟨by rw [hwv.registry], hwv.world⟩⟩
      · right
        rw [hw]
        exact ⟨e, _, rfl, hbefore⟩

end

/-! ### Calls that fail by a plan -/

private theorem curtails_drainAll_failing {reporter : Reporter Desk ReportError}
    (hreporter : Desk.IsReporter reporter) (plan : Operation → Nat → Bool)
    (isAfterAll : String → Bool) (synchronised : Bool) :
    Curtails (Workspace.Related fun (u : Counted Desk) d => u.state.Alike d)
      (fun w v => w.world.state.CallsWithin v.world)
      (drainAll ⟨reporter.failing plan, isAfterAll, synchronised⟩)
      (drainAll ⟨reporter, isAfterAll, synchronised⟩) :=
  curtails_drainAll (V := fun (u : Counted Desk) d => u.state.CallsWithin d)
    (Desk.curtails_failing hreporter plan) (Desk.curtails_note_failing hreporter plan) rfl
    fun d => ⟨⟨d, fun _ => 0⟩, rfl⟩

/-- A drain some calls of which fail, because the plan says so or by themselves. If it succeeds, no
call was to fail. If it fails, then with what the first call raised that failed, in the replay of a
session, and after calls all of which have succeeded. The sessions before are gone; this one has
kept its log, and those after it are what they were, and nothing has been called for them. The
registry is synchronised again. The calls that have been noted are the first ones of the same drain
when it succeeds without a plan, wherever its report goes. -/
theorem interrupted_drainAll {reporter : Reporter Desk ReportError}
    (hreporter : Desk.IsReporter reporter) (plan : Operation → Nat → Bool)
    (isAfterAll : String → Bool) (synchronised : Bool) {start : Workspace (Counted Desk)}
    (hids : (start.registry.sessions.map (·.contextId)).Nodup) :
    (∀ w, Runs (drainAll ⟨reporter.failing plan, isAfterAll, synchronised⟩) start () w →
      Counted.Spares plan start.world w.world)
    ∧ ∀ e w, drainAll ⟨reporter.failing plan, isAfterAll, synchronised⟩ start = .error e w →
      ∃ earlier s s' later v u,
        Interrupted ⟨reporter.failing plan, isAfterAll, synchronised⟩ start e w earlier s s' later v
        ∧ w.registry.isSynchronised = true
        ∧ (reporter.failing plan).Reaches start.world u
        ∧ reporter.FailsUnder plan u e w.world
        ∧ ∀ d w', start.world.state.Alike d →
          Runs (drainAll ⟨reporter, isAfterAll, synchronised⟩) ⟨start.registry, d⟩ () w' →
          w.world.state.CallsWithin w'.world := by
  have htraced := drainAll_traced (m := ⟨reporter.failing plan, isAfterAll, synchronised⟩)
    (Desk.advances_failing hreporter plan) hids
  refine ⟨?_, ?_⟩
  -- a drain that returns has met none of the failures
  · intro w hruns
    rcases htraced with ⟨w', hruns', -, hreaches⟩ | ⟨e, w', _, _, _, _, _, herror, -⟩
    · obtain ⟨-, rfl⟩ := hruns.unique hruns'
      exact hreaches.spares
    · rw [Runs, herror] at hruns
      cases hruns
  -- a drain that fails has met the first of them in one session
  · intro e w herror
    rcases htraced with ⟨w', hruns, -⟩ | ⟨e', w', earlier, s, s', later, v, herror', hinterrupted,
      u, hreaches, γ, c, hc⟩
    · rw [Runs, herror] at hruns
      cases hruns
    · rw [herror] at herror'
      cases herror'
      refine ⟨earlier, s, s', later, v, u, hinterrupted, ?_, hreaches,
        Reporter.failsUnder_of_failing hc, ?_⟩
      · rw [hinterrupted.registry]
        rfl
      · intro d w' halike hruns
        have hcurtails := curtails_drainAll_failing hreporter plan isAfterAll synchronised
        have hstart : Workspace.Related (fun (u : Counted Desk) d => u.state.Alike d) start
            ⟨start.registry, d⟩ := ⟨rfl, halike⟩
        -- the drain at hand has failed, so it is the one that is cut short
        rcases hcurtails.outcome hstart hruns with ⟨w'', hsucceeds, -⟩ | ⟨e', w'', hfails, hwithin⟩
        · rw [Runs, herror] at hsucceeds
          cases hsucceeds
        · rw [herror] at hfails
          cases hfails
          exact hwithin

/-- Three contexts, each with a test. -/
def threeContexts : Registry where
  sessions :=
    [{ contextId := "0-1", log := [.testStart "a" 1] },
      { contextId := "0-2", log := [.suiteStart "s" false, .testStart "b" 2, .suiteEnd] },
      { contextId := "0-3", log := [.testStart "c" 3] }]

/-- The second test is not written, so the replay of the second context fails. -/
theorem interrupted_drainAll_second :
    ∃ w, drainAll
        ⟨Desk.reporter.failing fun op n => op == .writeTest && n == 2, fun _ => false, true⟩
        ⟨threeContexts, ⟨{}, fun _ => 0⟩⟩ = .error (.injected .writeTest) w
      ∧ ∃ earlier s s' later v u,
        Interrupted
          ⟨Desk.reporter.failing fun op n => op == .writeTest && n == 2, fun _ => false, true⟩
          ⟨threeContexts, ⟨{}, fun _ => 0⟩⟩ (.injected .writeTest) w earlier s s' later v
        ∧ w.registry.isSynchronised = true
        ∧ (Desk.reporter.failing fun op n => op == .writeTest && n == 2).Reaches
          ⟨{}, fun _ => 0⟩ u
        ∧ Desk.reporter.FailsUnder (fun op n => op == .writeTest && n == 2) u
          (.injected .writeTest) w.world
        ∧ ∃ w', Runs (drainAll ⟨Desk.reporter, fun _ => false, true⟩) ⟨threeContexts, {}⟩ () w'
          ∧ w.world.state.CallsWithin w'.world := by
  have herror : error?
      (drainAll
        ⟨Desk.reporter.failing fun op n => op == .writeTest && n == 2, fun _ => false, true⟩)
      ⟨threeContexts, ⟨{}, fun _ => 0⟩⟩ = some (.injected .writeTest) := by decide +kernel
  have hnone : error? (drainAll ⟨Desk.reporter, fun _ => false, true⟩) ⟨threeContexts, {}⟩
      = none := by decide +kernel
  -- both drains are evaluated, the one with the failure and the one without
  obtain ⟨w, hfails⟩ := exists_of_error?_eq_some herror
  obtain ⟨_, w', hruns⟩ := exists_of_error?_eq_none hnone
  have hids : ((⟨threeContexts, ⟨{}, fun _ => 0⟩⟩ :
      Workspace (Counted Desk)).registry.sessions.map (·.contextId)).Nodup := by decide
  obtain ⟨earlier, s, s', later, v, u, h, hsync, hreaches, hunder, hwithin⟩ :=
    (interrupted_drainAll (.inl rfl) (fun op n => op == .writeTest && n == 2) (fun _ => false) true
      hids).2 (.injected .writeTest) w hfails
  exact ⟨w, hfails, earlier, s, s', later, v, u, h, hsync, hreaches, hunder, w', hruns,
    hwithin {} w' rfl hruns⟩

end Workspace

end Chronicle
