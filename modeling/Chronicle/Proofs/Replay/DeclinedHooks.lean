import Chronicle.Proofs.Replay.Twins

/-!
# Hooks that are declined

A hook that starts while no scope is open is declined: it gets no fixture. Its end is still an end,
and it ends the fixture that was started last among those that run, if one has outlived its scope.
Otherwise a declined hook and its end leave no trace. `Machine.declined_of_replay` compares the
report to that of the log without the two messages.

The two replays differ in more than the two messages, since a declined hook may have finalized a
test. In the replay without it the test goes on, and lets later hooks have fixtures.
-/
namespace Chronicle

/-! ### Pairs of hooks -/

/-- Whether the hooks that messages start and end match like parentheses, when they come after the
starts of `n` hooks that end in them. -/
def hooksMatch (n : Nat) : List Message → Bool
  | [] => n == 0
  | m :: rest =>
    match m with
    | .hookStart .. => hooksMatch (n + 1) rest
    | .hookEnd _ => n != 0 && hooksMatch (n - 1) rest
    | _ => hooksMatch n rest

/-- A message that is no hook does not change whether hooks match. -/
private theorem hooksMatch_cons {m : Message} (hstart : m.kind ≠ .hookStart)
    (hend : m.kind ≠ .hookEnd) (n : Nat) (rest : List Message) :
    hooksMatch n (m :: rest) = hooksMatch n rest := by
  cases m with
  | suiteStart | suiteEnd | testStart | testInfo | testEnd | entry => rfl
  | hookStart => exact absurd rfl hstart
  | hookEnd => exact absurd rfl hend

/-- Where a message stands once those in two other places have been removed, the first place before
the second. -/
def placeWithout (first second place : Nat) : Nat :=
  if place < first then place else if place < second then place - 1 else place - 2

/-- A message between the two moves up by one place. -/
private theorem placeWithout_between (first : Nat) {n k : Nat} (hk : k < n) :
    placeWithout first (first + (n + 1)) (first + (k + 1)) = first + k := by
  rw [placeWithout, if_neg (by omega), if_pos (by omega)]
  omega

/-- A message after both moves up by two. -/
private theorem placeWithout_after (first n k : Nat) :
    placeWithout first (first + (n + 1)) (first + (n + (k + 1) + 1)) = first + (n + k) := by
  rw [placeWithout, if_neg (by omega), if_neg (by omega)]
  omega

namespace Standing

variable {b : Backend} {isAfterAll : String → Bool} {st : Standing}

/-- Among the fixtures that run, those that matching hooks have started are on top, at most as many
as there are hooks that have not ended. So when all have ended, what runs has been running before.
-/
private theorem running_steps_suffix {n : Nat} {outer : List Handle} {between : List Message}
    (hmatch : hooksMatch n between) (hsuffix : st.running.drop n <:+ outer) :
    (st.steps isAfterAll between).running <:+ outer := by
  induction between generalizing n st with
  -- every hook of the stretch has ended
  | nil =>
    have hzero : n = 0 := by simpa [hooksMatch] using hmatch
    rwa [hzero, List.drop_zero] at hsuffix
  | cons m rest ih =>
    rw [steps_cons]
    obtain ⟨name, kind, start, rfl⟩ | ⟨e, rfl⟩ | ⟨hstart, hend⟩ := m.cases_of_hook
    · apply ih (n := n + 1) hmatch
      -- a hook that is declined adds no fixture, and counts all the same
      rcases running_startHook isAfterAll name kind start st with heq | heq
      · rw [step, heq, ← List.drop_drop]
        exact (List.drop_suffix 1 _).trans hsuffix
      · rwa [step, heq, List.drop_succ_cons]
    · simp only [hooksMatch, Bool.and_eq_true, bne_iff_ne] at hmatch
      apply ih hmatch.2
      -- the newest fixture ends, and so does the hook that counted for it
      rwa [step, running_endHook, List.drop_tail, Nat.sub_add_cancel (Nat.pos_of_ne_zero hmatch.1)]
    -- any other message leaves the fixtures alone
    · have hs : SameHooks (.inMemory {}) st (st.step isAfterAll m) := sameHooks_step hstart hend st
      rw [hooksMatch_cons hstart hend] at hmatch
      exact ih hmatch (hs.running ▸ hsuffix)

/-! ### Declined hooks -/

section Declined

variable {name : String}

/-- What a hook finds when it looks for a scope. -/
def beforeHook (isAfterAll : String → Bool) (name : String) (st : Standing) : Standing :=
  if isAfterAll name then st.finalize else st

/-- A hook that finalizes no test changes nothing before it starts. -/
private theorem beforeHook_of_imp (hnone : isAfterAll name = true → st.current = none) :
    st.beforeHook isAfterAll name = st := by
  simp only [beforeHook]
  split
  · rename_i hname
    simp only [finalize, hnone hname]
  · rfl

/-- What is done before a hook is made of moves. -/
private theorem moves_beforeHook (isAfterAll : String → Bool) (name : String) (st : Standing) :
    Moves st (st.beforeHook isAfterAll name) := by
  simp only [beforeHook]
  split
  · exact moves_finalize st
  · exact .refl

/-- What is done before a hook leaves the hooks as they are. -/
private theorem sameHooks_beforeHook (isAfterAll : String → Bool) (name : String) (st : Standing) :
    SameHooks b st (st.beforeHook isAfterAll name) := by
  simp only [beforeHook]
  split
  · exact sameHooks_finalize st
  · exact .refl st

/-- A declined hook does nothing but finalize the open test, if that is due. -/
private theorem step_of_declined (hdeclined : (st.beforeHook isAfterAll name).scopes = [])
    (kind : HookKind) (start : Int) :
    st.step isAfterAll (.hookStart name kind start) = st.beforeHook isAfterAll name :=
  startFixture_of_scopes_nil hdeclined kind name start

/-- Without the declined hook at most the test may still be open that it finalizes. -/
private theorem trails_beforeHook (hdeclined : (st.beforeHook isAfterAll name).scopes = []) :
    (st.beforeHook isAfterAll name).extent.Trails st.extent := by
  simp only [beforeHook] at hdeclined ⊢
  split
  · rename_i hname
    rw [if_pos hname] at hdeclined
    -- after the finalization no scope is open, and no test
    have hextent : st.extent.finalize = ⟨0, false⟩ := by
      rw [← extent_finalize, extent, hdeclined, current_finalize]
      rfl
    refine .inr ⟨by rw [extent_finalize, hextent], ?_⟩
    have hscopes := congrArg (·.scopes) hextent
    -- the finalization closes one scope at most, and none is open after it
    cases htesting : st.extent.isTesting with
    | false =>
      simp only [Extent.finalize, htesting, Bool.false_eq_true, if_false] at hscopes
      simp [hscopes]
    | true =>
      simp only [Extent.finalize, htesting, if_true] at hscopes
      simpa [Nat.sub_eq_zero_iff_le] using hscopes
  -- a hook of any other name finalizes nothing
  · exact .inl rfl

/-- The handles that have been drawn, except for those of the fixtures that run, are related to
themselves. -/
def Resting (st : Standing) (h h' : Handle) : Prop :=
  h = h' ∧ h.IsBefore st.drawn ∧ h ∉ st.running

/-- Any replay has the fixtures that do not run in common with itself. -/
private theorem twins_self (hs : st.Sound) (hkeyed : ∀ e ∈ st.fixtures, e.2.handle = e.1) :
    Twins (Resting st) st st := by
  -- a fixture that rests is not running, so the two never meet
  have hapart : Apart (Resting st) st.running st.running := by
    rintro x x' ⟨rfl, -, hx⟩
    exact ⟨hx, hx⟩
  refine
    { sound := hs
      sound' := hs
      drawn := ?_
      oneToOne := ?_
      records := ?_
      aligned := .apart hapart
      trails := .inl rfl
      apart := fun _ => hapart }
  · rintro x x' ⟨rfl, hx, -⟩
    exact ⟨hx, hx⟩
  · rintro x x' y y' ⟨rfl, -⟩ ⟨rfl, -⟩
    exact Iff.rfl
  -- a fixture that is under its own handle is its own twin
  · rintro x x' ⟨rfl, -⟩
    exact (FixtureResult.map_under_self hkeyed x).symm

/-- A replay that declines a hook, and the same one without the hook. -/
private theorem twins_beforeHook (hs : st.Sound) (hkeyed : ∀ e ∈ st.fixtures, e.2.handle = e.1)
    (hdeclined : (st.beforeHook isAfterAll name).scopes = []) :
    Twins (Resting st) (st.beforeHook isAfterAll name) st :=
  (twins_self hs hkeyed).same (moves_beforeHook isAfterAll name st) .refl
    (sameHooks_beforeHook isAfterAll name st) (.refl st) (trails_beforeHook hdeclined) fun _ => by
      rintro x x' ⟨rfl, -, hx⟩
      exact ⟨hx, hx⟩

/-- Of what runs when a declined hook is about to end, all has been running when it was declined. -/
private theorem running_suffix_of_declined (isAfterAll : String → Bool) (name : String)
    (st : Standing) {between : List Message} (hmatch : hooksMatch 0 between) :
    ((st.beforeHook isAfterAll name).steps isAfterAll between).running <:+ st.running := by
  have hrunning := (sameHooks_beforeHook (b := .inMemory {}) isAfterAll name st).running
  exact running_steps_suffix hmatch ⟨[], hrunning⟩

/-- A fixture does not run where a hook is declined, or it has ended where the hook is about to end,
and the hook has finalized no test. -/
def Spares (isAfterAll : String → Bool) (name : String) (st st₁ : Standing) (x : Handle) : Prop :=
  x ∈ st.running → (isAfterAll name = true → st.current = none) ∧ x ∉ st₁.running

/-- When a declined hook is about to end, the replay without it has the fixtures that did not run
when the hook was declined, and if the hook has finalized no test, then all that have ended since.
None of them runs. -/
private theorem exists_twins_of_declined (h : st.Hooked b)
    (hdeclined : (st.beforeHook isAfterAll name).scopes = []) {between : List Message}
    (hmatch : hooksMatch 0 between) :
    ∃ r, Twins r ((st.beforeHook isAfterAll name).steps isAfterAll between)
        (st.steps isAfterAll between)
      ∧ (∀ x x', r x x' → x ∉ ((st.beforeHook isAfterAll name).steps isAfterAll between).running)
      ∧ (∀ x, x.IsBefore st.drawn
        → Spares isAfterAll name st ((st.beforeHook isAfterAll name).steps isAfterAll between) x
        → r x x)
      ∧ ∀ k x, (st.beforeHook isAfterAll name).Starts isAfterAll between k x
        → ∃ x', st.Starts isAfterAll between k x' ∧ r x x' := by
  have hsuffix := running_suffix_of_declined isAfterAll name st hmatch
  by_cases hnone : isAfterAll name = true → st.current = none
  · rw [beforeHook_of_imp hnone] at hsuffix ⊢
    -- the two replays are the same so far
    have hsteps := h.steps isAfterAll between
    refine ⟨_, twins_self hsteps.sound hsteps.keyed, fun x x' hr => hr.2.2, fun x hx hrests => ?_,
      fun k x hx => ⟨x, hx, rfl, ?_, ?_⟩⟩
    · refine ⟨rfl, hx.mono (moves_steps isAfterAll between st).drawn_le, fun hmem => ?_⟩
      exact (hrests (hsuffix.subset hmem)).2 hmem
    · exact (hx.isBefore h.sound).2
    · exact fun hmem => (hx.isBefore h.sound).1 (h.sound.drawn_running (hsuffix.subset hmem))
  · have hdrawn : st.drawn ≤ (st.beforeHook isAfterAll name).drawn :=
      (moves_beforeHook isAfterAll name st).drawn_le
    obtain ⟨r, htwins, hextends, hstarts⟩ :=
      (twins_beforeHook h.sound h.keyed hdeclined).steps isAfterAll between
    refine ⟨r, htwins, fun x x' hr hmem => ?_, fun x hx hrests => ?_, hstarts⟩
    · -- it ran when the hook was declined, so it has not been related since then either
      have hrunning := hsuffix.subset hmem
      rcases hextends.new x x' hr with ⟨-, -, hx⟩ | hx
      · exact hx hrunning
      · exact hx ((h.sound.drawn_running hrunning).mono hdrawn)
    · exact hextends.old x x ⟨rfl, hx, fun hmem => hnone (hrests hmem).1⟩

/-- The end of a hook finalizes no test, even if it is the last message. -/
private theorem dispatch_hookEnd (isLast : Bool) (e : HookEnding) (st : Standing) :
    st.dispatch isAfterAll isLast (.hookEnd e) = st.endHook e := by
  simp only [dispatch, finalizes, Bool.and_false, Bool.false_eq_true, if_false, step]

/-- The fixtures that run are those that the steps leave running. -/
private theorem running_dispatchUntil (isAfterAll : String → Bool) (rest log : List Message)
    (st : Standing) :
    (st.dispatchUntil isAfterAll rest log).running = (st.steps isAfterAll log).running := by
  cases rest with
  | nil =>
    rw [dispatchUntil_nil]
    rcases dispatchAll_eq isAfterAll log st with heq | heq
    · rw [heq]
    · rw [heq, running_finalize]
  | cons m rest => rw [dispatchUntil_cons]

end Declined

/-! ### Logs without a declined hook -/

section Without

variable {name : String} {kind : HookKind} {start : Int} {e : HookEnding}
  {before between after log log' : List Message}

/-- The replays of a log with a declined hook and of that without its two messages. -/
private theorem exists_twins_without (h : st.Hooked b)
    (hlog : log = before ++ .hookStart name kind start :: (between ++ .hookEnd e :: after))
    (hlog' : log' = before ++ (between ++ after))
    (hdeclined : ((st.steps isAfterAll before).beforeHook isAfterAll name).scopes = [])
    (hmatch : hooksMatch 0 between) :
    ∃ r, Twins r (st.steps isAfterAll log) (st.steps isAfterAll log')
      ∧ ∀ x, Spares isAfterAll name (st.steps isAfterAll before)
          (st.steps isAfterAll (before ++ .hookStart name kind start :: between)) x
        → (x.IsBefore (st.steps isAfterAll before).drawn → r x x)
        ∧ ∀ k, st.Starts isAfterAll log k x → ∃ x', st.Starts isAfterAll log'
            (placeWithout before.length (before.length + (between.length + 1)) k) x'
          ∧ r x x' := by
  subst hlog hlog'
  have hhook := step_of_declined hdeclined kind start
  -- the stretch between is run with and without the hook
  obtain ⟨r₁, htwins, hidle, hearly, hbetween⟩ :=
    exists_twins_of_declined (h.steps isAfterAll before) hdeclined hmatch
  -- then the end of the hook on the one side only, and the rest on both
  obtain ⟨r, htwins, hextends, hafter⟩ := (htwins.endHook_left hidle e).steps isAfterAll after
  simp only [steps_append, steps_cons, hhook]
  refine ⟨r, htwins, fun x hx => ⟨fun hdrawn => hextends.old x x (hearly x hdrawn hx), ?_⟩⟩
  intro k hstarts
  -- neither the hook nor its end starts anything
  have hhookless : ((st.steps isAfterAll before).step isAfterAll
      (.hookStart name kind start)).running ≠ x :: (st.steps isAfterAll before).running := by
    rw [hhook, (sameHooks_beforeHook (b := b) isAfterAll name _).running]
    exact (List.cons_ne_self x _).symm
  rcases starts_cases hhookless hstarts with ⟨hk, hearlier⟩ | ⟨k, rfl, hlater⟩
  -- started before the hook: it is its own twin
  · rw [placeWithout, if_pos hk]
    have hdrawn := (hearlier.isBefore h.sound).2
    exact ⟨x, (starts_append_left hk).2 hearlier, hextends.old x x (hearly x hdrawn hx)⟩
  rw [hhook] at hlater
  have hendless : ((((st.steps isAfterAll before).beforeHook isAfterAll name).steps isAfterAll
      between).step isAfterAll (.hookEnd e)).running ≠ _ := running_endHook_ne e _ x
  rcases starts_cases hendless hlater with ⟨hk, hinside⟩ | ⟨k, rfl, hlast⟩
  -- started between the hook and its end, so one place earlier without the hook
  · obtain ⟨x', hx', hr⟩ := hbetween k x hinside
    rw [placeWithout_between _ hk]
    exact ⟨x', starts_append_right.2 ((starts_append_left hk).2 hx'), hextends.old x x' hr⟩
  -- started after the end, so two places earlier
  · obtain ⟨x', hx', hr⟩ := hafter k x hlast
    rw [placeWithout_after]
    exact ⟨x', starts_append_right.2 (starts_append_right.2 hx'), hr⟩

/-- What the end of a declined hook leaves alone. -/
private theorem spared_of_declined (h : (initial b).Hooked b)
    (hlog : log = before ++ .hookStart name kind start :: (between ++ .hookEnd e :: after))
    (hlog' : log' = before ++ (between ++ after))
    (hdeclined : (((initial b).steps isAfterAll before).beforeHook isAfterAll name).scopes = [])
    (hmatch : hooksMatch 0 between) :
    (∀ x, x.IsBefore b.drawn → ((initial b).replay isAfterAll log').fixtures.get? x
        = ((initial b).replay isAfterAll log).fixtures.get? x)
      ∧ ∀ k x f, (initial b).Starts isAfterAll log k x
        → ((initial b).replay isAfterAll log).fixtures.get? x = some f
        → Spares isAfterAll name ((initial b).steps isAfterAll before)
          ((initial b).steps isAfterAll (before ++ .hookStart name kind start :: between)) x
        → ∃ x', (initial b).Starts isAfterAll log'
            (placeWithout before.length (before.length + (between.length + 1)) k) x'
          ∧ ((initial b).replay isAfterAll log').fixtures.get? x' = some (f.under x') := by
  obtain ⟨r, htwins, hspared⟩ := exists_twins_without h hlog hlog' hdeclined hmatch
  have hkeyed : ∀ e ∈ ((initial b).replay isAfterAll log).fixtures, e.2.handle = e.1 :=
    (h.replay log).keyed
  simp only [fixtures_replay] at hkeyed ⊢
  refine ⟨fun x hx => ?_, fun k x f hstarts hshown hspares => ?_⟩
  · -- what has been there before the replay does not run in it
    have hidle : x ∉ ((initial b).steps isAfterAll before).running := fun hmem =>
      (mem_running_steps hmem).elim List.not_mem_nil (· hx)
    have hdrawn : x.IsBefore ((initial b).steps isAfterAll before).drawn :=
      hx.mono (moves_steps isAfterAll before (initial b)).drawn_le
    have hr : r x x := (hspared x fun hmem => absurd hmem hidle).1 hdrawn
    rw [htwins.stopped hr, FixtureResult.map_under_self hkeyed]
  -- what is started in the replay has a twin in the other one, with the same record
  · obtain ⟨x', hstarts', hr⟩ := (hspared x hspares).2 k hstarts
    refine ⟨x', hstarts', ?_⟩
    rw [htwins.stopped hr, hshown, Option.map_some]

end Without

end Standing

namespace Machine

/-- Whether a hook that is about to start is declined, after the open test has been finalized if
that is due. -/
def Declines {σ ε : Type} (m : Machine σ ε) (p : Pass σ) (name : String) (kind : HookKind)
    (start : Int) : Prop :=
  ∃ q q', Runs (if m.isAfterAll name then m.finalizeTest .afterAllHook else pure ()) p () q
    ∧ Runs (call (m.reporter.startFixture q.session.scopes.head? kind name start)) q none q'

/-- The message of a log that comes after `k` others starts a fixture, and in the end the report has
this record of it. -/
structure Shows (m : Machine Backend ReportError) (p : Pass Backend) (k : Nat) (h : Handle)
    (f : FixtureResult) : Prop where
  starts : ∃ q q', Runs (m.dispatchUntil (p.session.log.drop k) (p.session.log.take k)) p () q
    ∧ Runs (m.dispatchUntil (p.session.log.drop (k + 1)) (p.session.log.take (k + 1))) p () q'
    ∧ q'.session.fixtures = h :: q.session.fixtures
  shown : ∃ q, Runs m.replay p () q ∧ q.world.fixtures.get? h = some f

variable {b : Backend} {isAfterAll : String → Bool} {synchronised : Bool} {st : Standing}
  {p : Pass Backend}

/-- A hook is declined if no scope is open. -/
private theorem declines_iff (hm : p.world.destination = .memory) (hs : st.Sound) {name : String}
    {kind : HookKind} {start : Int} :
    (Backend.machine isAfterAll synchronised).Declines (st.pass p) name kind start
      ↔ (st.beforeHook isAfterAll name).scopes = [] := by
  -- what the machine does before it asks for a fixture
  have hready : Runs (if isAfterAll name then
        (Backend.machine isAfterAll synchronised).finalizeTest .afterAllHook else pure ())
      (st.pass p) () ((st.beforeHook isAfterAll name).pass p) := by
    simp only [Standing.beforeHook]
    split
    · exact runs_finalizeTest hm hs .afterAllHook
    · exact .pure _ _
  have hs' : (st.beforeHook isAfterAll name).Sound :=
    (Standing.moves_beforeHook isAfterAll name st).sound hs
  constructor
  -- the machine goes one way only, so the call that was declined is the one known
  · rintro ⟨q, q', hq, hq'⟩
    obtain ⟨-, rfl⟩ := hq.unique hready
    cases hc : (st.beforeHook isAfterAll name).scopes with
    | nil => rfl
    | cons s rest =>
      -- the hook would have been given a fixture
      obtain ⟨heq, -⟩ :=
        hq'.unique (runs_call (Standing.runs_startFixture hs' hc kind name start))
      cases heq
  -- with no scope open the call is declined
  · intro hc
    exact ⟨_, _, hready, runs_call (Standing.runs_startFixture_nil hc kind name start)⟩

/-- A part of a log is taken from the start as the standing takes it. -/
private theorem runs_dispatchUntil_initial (hb : b.BetweenReplays) (isAfterAll : String → Bool)
    (synchronised : Bool) (contextId : String) (log rest between : List Message) :
    Runs ((Backend.machine isAfterAll synchronised).dispatchUntil rest between)
      ⟨{ contextId := contextId, log := log }, b⟩ ()
      (((Standing.initial b).dispatchUntil isAfterAll rest between).pass
        ⟨{ contextId := contextId, log := log }, b⟩) := by
  have hruns : Runs ((Backend.machine isAfterAll synchronised).dispatchUntil rest between)
      ((Standing.initial b).pass ⟨{ contextId := contextId, log := log }, b⟩) () _ :=
    runs_dispatchUntil hb.idle.memory (Standing.sound_initial b) rest between
  rwa [Standing.pass_initial hb.idle contextId log] at hruns

/-- What a replay shows of a hook is what its standing holds. -/
private theorem shows_iff (hb : b.BetweenReplays) {contextId : String} {log : List Message}
    {k : Nat} {h : Handle} {f : FixtureResult} :
    (Backend.machine isAfterAll synchronised).Shows ⟨{ contextId := contextId, log := log }, b⟩
        k h f
      ↔ (Standing.initial b).Starts isAfterAll log k h
        ∧ ((Standing.initial b).replay isAfterAll log).fixtures.get? h = some f := by
  have hreplay := runs_replay hb.idle isAfterAll synchronised contextId log
  have huntil := fun k => runs_dispatchUntil_initial hb isAfterAll synchronised contextId log
    (log.drop k) (log.take k)
  -- what runs at a moment does not depend on what is still to come
  have hrunning : ∀ rest log' : List Message,
      ((Standing.initial b).dispatchUntil isAfterAll rest log').running
        = ((Standing.initial b).steps isAfterAll log').running := fun rest log' =>
    Standing.running_dispatchUntil isAfterAll rest log' _
  constructor
  -- the three runs that are given are the three that are known
  · rintro ⟨⟨q, q', hq, hq', hstarts⟩, u, hu, hshown⟩
    obtain ⟨-, rfl⟩ := hq.unique (huntil k)
    obtain ⟨-, rfl⟩ := hq'.unique (huntil (k + 1))
    obtain ⟨-, rfl⟩ := hu.unique hreplay
    simp only [Standing.pass, Standing.session, hrunning] at hstarts
    exact ⟨hstarts, hshown⟩
  · rintro ⟨hstarts, hshown⟩
    refine ⟨⟨_, _, huntil k, huntil (k + 1), ?_⟩, _, hreplay, hshown⟩
    simp only [Standing.pass, Standing.session, hrunning]
    exact hstarts

/-- Where no scope is open, a replay of a log up to there meets a hook that is declined. -/
private theorem exists_declines (hb : b.BetweenReplays) (isAfterAll : String → Bool)
    (synchronised : Bool) (contextId : String) (log rest before : List Message) (m : Message)
    (name : String) (kind : HookKind) (start : Int)
    (hscopes : (((Standing.initial b).steps isAfterAll before).beforeHook isAfterAll name).scopes
      = []) :
    ∃ declined, Runs ((Backend.machine isAfterAll synchronised).dispatchUntil (m :: rest) before)
        ⟨{ contextId := contextId, log := log }, b⟩ () declined
      ∧ (Backend.machine isAfterAll synchronised).Declines declined name kind start
      ∧ declined.session.fixtures = ((Standing.initial b).steps isAfterAll before).running := by
  have hruns := runs_dispatchUntil_initial hb isAfterAll synchronised contextId log (m :: rest)
    before
  rw [Standing.dispatchUntil_cons] at hruns
  have hsound := (hb.hooked.steps isAfterAll before).sound
  exact ⟨_, hruns, (declines_iff hb.idle.memory hsound).2 hscopes, rfl⟩

/-- Let a hook be declined, and let the hooks between its start and its end match. Then its end
changes nothing but the newest fixture that runs, and this one has been running ever since the hook
was declined. The report of the log without the two messages shows the fixtures from before the
replay in the same way, and for each fixture that the log starts it shows one that the same message
starts, with the same record but for the handle. This leaves out the fixtures that were running when
the hook was declined, unless they have ended before the hook has, and the hook has finalized no
test. -/
theorem declined_of_replay (hb : b.BetweenReplays) (isAfterAll : String → Bool)
    (synchronised : Bool) (contextId : String) {before between after log log' : List Message}
    {name : String} {kind : HookKind} {start : Int} {e : HookEnding}
    (hlog : log = before ++ .hookStart name kind start :: (between ++ .hookEnd e :: after))
    (hlog' : log' = before ++ (between ++ after)) (hmatch : hooksMatch 0 between)
    {declined : Pass Backend}
    (hruns : Runs ((Backend.machine isAfterAll synchronised).dispatchUntil
        (.hookStart name kind start :: (between ++ .hookEnd e :: after)) before)
      ⟨{ contextId := contextId, log := log }, b⟩ () declined)
    (hdeclined : (Backend.machine isAfterAll synchronised).Declines declined name kind start) :
    ∃ ending ended q q',
      Runs ((Backend.machine isAfterAll synchronised).dispatchUntil (.hookEnd e :: after)
          (before ++ .hookStart name kind start :: between))
        ⟨{ contextId := contextId, log := log }, b⟩ () ending
      ∧ Runs ((Backend.machine isAfterAll synchronised).dispatch after.isEmpty (.hookEnd e))
        ending () ended
      ∧ Runs (Backend.machine isAfterAll synchronised).replay
        ⟨{ contextId := contextId, log := log }, b⟩ () q
      ∧ Runs (Backend.machine isAfterAll synchronised).replay
        ⟨{ contextId := contextId, log := log' }, b⟩ () q'
      ∧ ending.session.fixtures <:+ declined.session.fixtures
      ∧ (∀ h, ending.session.fixtures.head? ≠ some h →
        ended.world.fixtures.get? h = ending.world.fixtures.get? h)
      ∧ (∀ h, h.IsBefore b.drawn → q'.world.fixtures.get? h = q.world.fixtures.get? h)
      ∧ ∀ k h f, (Backend.machine isAfterAll synchronised).Shows
          ⟨{ contextId := contextId, log := log }, b⟩ k h f
        → (h ∈ declined.session.fixtures → h ∉ ending.session.fixtures
          ∧ (isAfterAll name = true → declined.session.currentTest = none))
        → ∃ h', (Backend.machine isAfterAll synchronised).Shows
          ⟨{ contextId := contextId, log := log' }, b⟩
          (placeWithout before.length (before.length + (between.length + 1)) k) h'
          { f with handle := h' } := by
  have hm := hb.idle.memory
  -- up to any moment the replay has made of its pass what a standing says
  have huntil := runs_dispatchUntil_initial hb isAfterAll synchronised contextId log
  obtain ⟨-, rfl⟩ := hruns.unique (huntil _ _)
  have hending := huntil (.hookEnd e :: after) (before ++ .hookStart name kind start :: between)
  rw [Standing.dispatchUntil_cons] at hdeclined hending ⊢
  rw [declines_iff hm (hb.hooked.steps isAfterAll before).sound] at hdeclined
  have hsound :=
    (hb.hooked.steps isAfterAll (before ++ .hookStart name kind start :: between)).sound
  -- the fixtures of the two logs are paired
  obtain ⟨holder, hstarted⟩ :=
    Standing.spared_of_declined hb.hooked hlog hlog' hdeclined hmatch
  refine ⟨_, _, _, _, hending, runs_dispatch hm hsound after.isEmpty (.hookEnd e),
    runs_replay hb.idle isAfterAll synchronised contextId log,
    runs_replay hb.idle isAfterAll synchronised contextId log', ?_, ?_, holder, ?_⟩
  -- up to its end the hook has left only older fixtures running
  · show ((Standing.initial b).steps isAfterAll _).running <:+ _
    rw [Standing.steps_append, Standing.steps_cons, Standing.step_of_declined hdeclined]
    exact Standing.running_suffix_of_declined isAfterAll name _ hmatch
  -- the end changes the fixture on top and no other one
  · intro h hhead
    have hhead : ((Standing.initial b).steps isAfterAll
        (before ++ .hookStart name kind start :: between)).running.head? ≠ some h := hhead
    simp only [Standing.pass, Standing.report, Standing.dispatch_hookEnd,
      Standing.get?_fixtures_endHook, if_neg hhead, Option.map_id']
  -- what is shown is read as a start and a final record, and back
  · intro k h f hshows hspares
    obtain ⟨hstarts, hshown⟩ := (shows_iff hb).1 hshows
    obtain ⟨h', hshows'⟩ := hstarted k h f hstarts hshown fun hmem =>
      ⟨fun hname => Option.map_eq_none_iff.1 ((hspares hmem).2 hname), (hspares hmem).1⟩
    exact ⟨h', (shows_iff hb).2 hshows'⟩

/-- A hook that runs after all tests is declined and finalizes the test that is open. Without it the
test gives the next hook a fixture. A hook of the next suite is shown alike. -/
theorem declined_of_replay_of_after_all :
    (Backend.inMemory {}).BetweenReplays
      ∧ hooksMatch 0 [.hookStart "set up" .before 4, .hookEnd ⟨.passed, 5, none, none⟩]
      ∧ ∃ log log' declined h' f',
        log = [.suiteStart "outer" false, .hookStart "open" .before 1, .suiteEnd, .testStart "a" 2,
          .hookStart "tear down" .after 3, .hookStart "set up" .before 4,
          .hookEnd ⟨.passed, 5, none, none⟩, .hookEnd ⟨.failed, 6, none, none⟩,
          .suiteStart "next" false, .hookStart "again" .before 7, .hookEnd ⟨.broken, 9, none, none⟩]
        ∧ log' = [.suiteStart "outer" false, .hookStart "open" .before 1, .suiteEnd,
          .testStart "a" 2, .hookStart "set up" .before 4, .hookEnd ⟨.passed, 5, none, none⟩,
          .suiteStart "next" false, .hookStart "again" .before 7, .hookEnd ⟨.broken, 9, none, none⟩]
        ∧ Runs ((Backend.machine (· = "tear down") true).dispatchUntil (log.drop 4) (log.take 4))
          ⟨{ contextId := "main", log := log }, .inMemory {}⟩ () declined
        ∧ (Backend.machine (· = "tear down") true).Declines declined "tear down" .after 3
        ∧ (Backend.machine (· = "tear down") true).Shows
          ⟨{ contextId := "main", log := log' }, .inMemory {}⟩ 7 h' f'
        ∧ f'.status = some .broken ∧ f'.duration = some 2 := by
  have hb := Backend.BetweenReplays.fresh {}
  have hmatch : hooksMatch 0 [.hookStart "set up" .before 4, .hookEnd ⟨.passed, 5, none, none⟩] :=
    rfl
  -- the late hook closes the test and finds no scope open
  obtain ⟨declined, hruns, hdeclined, hrunning⟩ := exists_declines hb (· = "tear down") true
    "main" [.suiteStart "outer" false, .hookStart "open" .before 1, .suiteEnd, .testStart "a" 2,
      .hookStart "tear down" .after 3, .hookStart "set up" .before 4,
      .hookEnd ⟨.passed, 5, none, none⟩, .hookEnd ⟨.failed, 6, none, none⟩,
      .suiteStart "next" false, .hookStart "again" .before 7, .hookEnd ⟨.broken, 9, none, none⟩]
    [.hookStart "set up" .before 4, .hookEnd ⟨.passed, 5, none, none⟩,
      .hookEnd ⟨.failed, 6, none, none⟩, .suiteStart "next" false, .hookStart "again" .before 7,
      .hookEnd ⟨.broken, 9, none, none⟩]
    [.suiteStart "outer" false, .hookStart "open" .before 1, .suiteEnd, .testStart "a" 2]
    (.hookStart "tear down" .after 3) "tear down" .after 3 rfl
  obtain ⟨ending, -, -, -, -, -, -, -, -, -, -, hspared⟩ :=
    declined_of_replay hb (· = "tear down") true "main" rfl rfl hmatch hruns hdeclined
  -- the hook that is looked at starts later
  have hidle : Handle.drawn 5 ∉ declined.session.fixtures := by
    rw [hrunning]
    decide +kernel
  obtain ⟨h', hshows⟩ := hspared 9 (.drawn 5)
    { handle := .drawn 5, name := "again", kind := .before, start := 7, stop := some 9,
      duration := some 2, status := some .broken, stage := .finished }
    ((shows_iff hb).2 ⟨rfl, by decide +kernel⟩) fun hmem => absurd hmem hidle
  exact ⟨hb, hmatch, _, _, declined, h', _, rfl, rfl, hruns, hdeclined, hshows, rfl, rfl⟩

/-- A fixture has outlived its scope when a hook is declined, and the end of that hook ends it. In
the log without the hook it ends later, and in another way. -/
theorem ended_by_declined_hook :
    ∃ log log' declined h f,
      log = [.suiteStart "s" false, .hookStart "a" .before 1, .suiteEnd, .hookStart "b" .before 3,
        .hookEnd ⟨.failed, 4, none, none⟩, .hookEnd ⟨.passed, 5, none, none⟩]
      ∧ log' = [.suiteStart "s" false, .hookStart "a" .before 1, .suiteEnd,
        .hookEnd ⟨.passed, 5, none, none⟩]
      ∧ Runs ((Backend.machine (fun _ => false) true).dispatchUntil (log.drop 3) (log.take 3))
        ⟨{ contextId := "main", log := log }, .inMemory {}⟩ () declined
      ∧ (Backend.machine (fun _ => false) true).Declines declined "b" .before 3
      ∧ (Backend.machine (fun _ => false) true).Shows
        ⟨{ contextId := "main", log := log }, .inMemory {}⟩ 1 h f
      ∧ ∀ h' f', (Backend.machine (fun _ => false) true).Shows
          ⟨{ contextId := "main", log := log' }, .inMemory {}⟩ 1 h' f'
        → f'.status ≠ f.status ∧ f'.stop ≠ f.stop ∧ f'.duration ≠ f.duration := by
  have hb := Backend.BetweenReplays.fresh {}
  obtain ⟨declined, hruns, hdeclined, -⟩ := exists_declines hb (fun _ => false) true "main"
    [.suiteStart "s" false, .hookStart "a" .before 1, .suiteEnd, .hookStart "b" .before 3,
      .hookEnd ⟨.failed, 4, none, none⟩, .hookEnd ⟨.passed, 5, none, none⟩]
    [.hookEnd ⟨.failed, 4, none, none⟩, .hookEnd ⟨.passed, 5, none, none⟩]
    [.suiteStart "s" false, .hookStart "a" .before 1, .suiteEnd] (.hookStart "b" .before 3)
    "b" .before 3 rfl
  -- the fixture that both ends fall on
  let started : FixtureResult :=
    { handle := .drawn 1, name := "a", kind := .before, start := 1, stage := .finished }
  refine ⟨_, _, declined, .drawn 1,
    { started with stop := some 4, duration := some 3, status := some .failed }, rfl, rfl, hruns,
    hdeclined, (shows_iff hb).2 ⟨rfl, by decide +kernel⟩, fun h' f' hshows => ?_⟩
  obtain ⟨hstarts, hshown⟩ := (shows_iff hb).1 hshows
  have hh : [Handle.drawn 1] = [h'] := hstarts
  obtain rfl := List.head_eq_of_cons_eq hh
  -- without the declined hook and its end, the second end is its own
  have hlater : ((Standing.initial (.inMemory {})).replay (fun _ => false)
      [.suiteStart "s" false, .hookStart "a" .before 1, .suiteEnd,
        .hookEnd ⟨.passed, 5, none, none⟩]).fixtures.get? (.drawn 1)
      = some { started with stop := some 5, duration := some 4, status := some .passed } := by
    decide +kernel
  obtain rfl := Option.some.inj (hlater.symm.trans hshown)
  decide

end Machine

end Chronicle
