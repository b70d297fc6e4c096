import Chronicle.Proofs.Replay.Recovery
import Chronicle.Proofs.Session.Failure

/-!
# Drains that are repeated

After a drain that failed, the registry can be drained again: `Workspace.recovered_drainAll`. The
session that failed is then replayed from the start of its log, so what its replay had begun before
the failure is reported twice.
-/
namespace Chronicle

open Backend (Accords BreaksOff)

variable {σ δ : Type}

/-- What is in the report when a drain in which a call of `op` failed has been repeated. The log has
all messages that have been replayed, as often as they have been. Only a scope whose writing failed
is lost, and a test whose start failed leaves a scope without a test. -/
structure Backend.Recovered (op : Operation) (log : List Message) (b : Backend) : Prop where
  tests : (b.writtenTests.map fun r => (r.name, r.start)).Perm (log.filterMap (·.testStart?))
  testsOnce : (b.writtenTests.map (·.handle)).Nodup
  scopes : b.writtenScopes.length + (if op = .writeScope then 1 else 0)
    = log.countP (·.kind.opensScope) + if op = .startTest then 1 else 0
  scopesOnce : (b.writtenScopes.map (·.handle)).Nodup

private theorem Backend.Accords.recovered {lost : List Handle} {log : List Message} {s : Session}
    {b : Backend} {op : Operation}
    (ha : Accords lost (if op = .startTest then 1 else 0) log s b)
    (hlost : lost.length = if op = .writeScope then 1 else 0) (hc : s.currentTest = none)
    (hs : s.scopes = []) : b.Recovered op log := by
  -- no test is open, so all of them have been written
  have htests : b.tests = [] := by
    have htests := ha.tests
    rw [hc] at htests
    exact List.map_eq_nil_iff.1 htests
  have hcounts := ha.counts.tests
  have hnumbered := ha.numbered.tests.nodup
  rw [starts, htests, List.map_nil, List.append_nil] at hcounts
  rw [testHandles, htests] at hnumbered
  refine ⟨hcounts, hnumbered, ?_, (List.nodup_append.1 ha.numbered.scopes.nodup).2.1⟩
  -- the open scopes are those that have been lost
  have hopen := ha.scopes.length_eq
  have hscopes := ha.counts.scopes
  rw [hs, List.nil_append, hlost] at hopen
  rw [scopeHandles, List.length_append, List.length_map, hopen] at hscopes
  omega

/-- What an action fails with, and the state that it leaves when it is repeated and succeeds. -/
def retried? {ε α : Type} (act : EStateM ε σ α) (s : σ) : Option (ε × σ) :=
  match act s with
  | .ok .. => none
  | .error e s' =>
    match act s' with
    | .ok _ s'' => some (e, s'')
    | .error .. => none

private theorem exists_of_retried?_eq_some {ε : Type} {act : EStateM ε σ Unit} {s s'' : σ} {e : ε}
    (h : retried? act s = some (e, s'')) : ∃ s', act s = .error e s' ∧ Runs act s' () s'' := by
  rw [retried?] at h
  cases hfirst : act s with
  -- the first attempt is to fail
  | ok a s' =>
    rw [hfirst] at h
    cases h
  | error e' s' =>
    rw [hfirst] at h
    cases hsecond : act s' with
    -- and the second one to return
    | ok a s₂ =>
      simp only [hsecond, Option.some.injEq, Prod.mk.injEq] at h
      obtain ⟨rfl, rfl⟩ := h
      exact ⟨s', rfl, hsecond⟩
    | error e₂ s₂ =>
      simp only [hsecond] at h
      cases h

namespace Workspace

variable {F : Facade σ δ} {m : Machine σ δ} {P : σ → σ → Prop} {lost : List Handle} {extra : Nat}
  {done : List Message} {r : Registry} {s : Session} {rest : List Session} {world : σ} {b : Backend}

/-- All that the replays of a log have begun has been written. -/
def CameThrough (F : Facade σ δ) (lost : List Handle) (extra : Nat) (log : List Message)
    (world : σ) : Prop :=
  ∃ s b, F.shows world b ∧ Accords lost extra log s b ∧ s.currentTest = none ∧ s.scopes = []

/-- While `s` was replayed, a call of `op` has been refused. By then the logs of `earlier` had been
replayed, and `read` of the log of `s`; `s'` is what is left of `s`. -/
structure BrokenOff (F : Facade σ δ) (lost : List Handle) (extra : Nat) (done : List Message)
    (r : Registry) (op : Operation) (e : δ) (w : Workspace σ) (earlier : List Session)
    (s s' : Session) (later : List Session) (read : List Message) : Prop where
  registry : w.registry = { r with sessions := s' :: later }
  sameLog : s.SameLog s'
  refuses : F.refuses op e
  begins : read <+: s.log
  report : ∃ b, F.remains w.world b
    ∧ BreaksOff lost extra (done ++ (earlier.flatMap (·.log) ++ read)) op s' b

/-! ### One session -/

/-- The first session is replayed and leaves, or a call has been refused and the session stays. -/
private theorem drainSessions_head (hr : m.reporter.Serves F) (hadv : m.reporter.Advances P)
    (hids : ((s :: rest).map (·.contextId)).Nodup) (hsessions : r.sessions = s :: rest)
    (hshows : F.shows world b) (ha : Accords lost extra done s b) :
    (∃ world', drainSessions m (s :: rest) ⟨r, world⟩
          = drainSessions m rest ⟨{ r with sessions := rest }, world'⟩
        ∧ CameThrough F lost extra (done ++ s.log) world')
      ∨ ∃ e w op s' read, drainSessions m (s :: rest) ⟨r, world⟩ = .error e w
        ∧ BrokenOff F lost extra done r op e w [] s s' rest read := by
  have hnew := (List.nodup_cons.1 hids).1
  have htraced := replay_traced hadv r.isSynchronised ⟨s, world⟩
  have hr' : ({ m with synchronised := r.isSynchronised } : Machine σ δ).reporter.Serves F := hr
  rcases Machine.attempts_replay hr' s.log (p := ⟨s, world⟩) hshows ⟨ha, rfl⟩ with
    ⟨_, q, b', hreplay, hshows', hend⟩ | ⟨e, q, op, b', herror, hrefuses, hremains, read, hread, hb⟩
  -- the replay returns, and the session is taken out
  · rw [show _ = _ from hreplay] at htraced
    obtain ⟨world', hnote, hshows''⟩ := hr.note r.isSynchronised
      ⟨s.contextId, .sessionDrained s.log.length⟩ hshows'
    exact .inl ⟨world', drainSessions_cons hsessions hnew hreplay htraced.1 hnote, q.session, b',
      hshows'', hend⟩
  -- the replay breaks off, and the session stays
  · rw [herror] at htraced
    have hfails := error_replaySession hsessions hnew herror htraced.1
    exact .inr ⟨e, _, op, q.session, read, error_of_bind hfails _, rfl, htraced.1, hrefuses, hread,
      b', hremains, hb⟩

/-! ### All sessions -/

/-- Sessions are drained one after another, up to the end or up to a call that is refused. The first
one may have been left by a drain that failed; nothing is open in the others. -/
private theorem drainSessions_accords (hr : m.reporter.Serves F)
    (hadv : m.reporter.Advances P) (hids : ((s :: rest).map (·.contextId)).Nodup)
    (hrest : ∀ t ∈ rest, t.isSettled = true) (hsessions : r.sessions = s :: rest)
    (hshows : F.shows world b) (ha : Accords lost extra done s b) :
    (∃ w, Runs (drainSessions m (s :: rest)) ⟨r, world⟩ () w
        ∧ w.registry = { r with sessions := [] }
        ∧ CameThrough F lost extra (done ++ (s :: rest).flatMap (·.log)) w.world)
      ∨ ∃ e w op earlier t t' later read, drainSessions m (s :: rest) ⟨r, world⟩ = .error e w
        ∧ s :: rest = earlier ++ t :: later
        ∧ BrokenOff F lost extra done r op e w earlier t t' later read := by
  induction rest generalizing r s world b done with
  | nil =>
    rcases drainSessions_head hr hadv hids hsessions hshows ha with
      ⟨world', heq, hcame⟩ | ⟨e, w, op, s', read, herror, hbroken⟩
    · refine .inl ⟨⟨{ r with sessions := [] }, world'⟩, heq, rfl, ?_⟩
      rwa [List.flatMap_cons, List.flatMap_nil, List.append_nil]
    · exact .inr ⟨e, w, op, [], s, s', [], read, herror, rfl, hbroken⟩
  | cons t rest ih =>
    rcases drainSessions_head hr hadv hids hsessions hshows ha with
      ⟨world', heq, s', b', hshows', ha', hc, hs⟩ | ⟨e, w, op, s', read, herror, hbroken⟩
    · have hnext := ha'.next hs hc (hrest t List.mem_cons_self)
      rcases ih (r := { r with sessions := t :: rest }) (List.nodup_cons.1 hids).2
        (fun u hu => hrest u (List.mem_cons_of_mem _ hu)) rfl hshows' hnext with
        ⟨w, hruns, hregistry, hcame⟩ | ⟨e, w, op, earlier, u, u', later, read, herror, hsplit,
          hbroken⟩
      · rw [List.append_assoc, ← List.flatMap_cons] at hcame
        exact .inl ⟨w, heq.trans hruns, hregistry, hcame⟩
      · -- the session at hand is one of those before the one that failed
        have hreport := hbroken.report
        rw [List.append_assoc, ← List.append_assoc s.log, ← List.flatMap_cons] at hreport
        exact .inr ⟨e, w, op, s :: earlier, u, u', later, read, heq.trans herror,
          congrArg (s :: ·) hsplit, { hbroken with report := hreport }⟩
    -- the first session breaks off
    · exact .inr ⟨e, w, op, [], s, s', t :: rest, read, herror, rfl, hbroken⟩

/-- So is a registry. -/
private theorem drainAll_accords (hr : m.reporter.Serves F) (hadv : m.reporter.Advances P)
    (hids : ((s :: rest).map (·.contextId)).Nodup) (hrest : ∀ t ∈ rest, t.isSettled = true)
    (hsessions : r.sessions = s :: rest) (hshows : F.shows world b)
    (ha : Accords lost extra done s b) :
    (∃ w, Runs (drainAll m) ⟨r, world⟩ () w
        ∧ w.registry = { r with sessions := [], draining := false }
        ∧ CameThrough F lost extra (done ++ (s :: rest).flatMap (·.log)) w.world)
      ∨ ∃ e w op earlier t t' later read, drainAll m ⟨r, world⟩ = .error e w
        ∧ s :: rest = earlier ++ t :: later
        ∧ BrokenOff F lost extra done { r with draining := false } op e w earlier t t' later
          read := by
  rcases drainSessions_accords (r := { r with draining := true }) hr hadv hids hrest hsessions
    hshows ha with ⟨w, hruns, hregistry, hcame⟩ | ⟨e, w, op, earlier, t, t', later, read, herror,
      hsplit, hbroken⟩
  · refine .inl ⟨_, runs_drainAll_of_drainSessions hsessions hruns, ?_, hcame⟩
    rw [hregistry]
  · refine .inr ⟨e, _, op, earlier, t, t', later, read,
      error_drainAll_of_drainSessions hsessions herror, hsplit, { hbroken with registry := ?_ }⟩
    rw [hbroken.registry]

/-! ### One call that fails -/

/-- Once the call that fails has come, a drain succeeds and reports what is left. -/
private theorem exists_recovered {reporter : Reporter Desk ReportError}
    (hreporter : Desk.IsReporter reporter) {op : Operation} {k : Nat} (isAfterAll : String → Bool)
    (synchronised : Bool) {w : Workspace (Counted Desk)} {later : List Session}
    (hids : ((s :: later).map (·.contextId)).Nodup) (hlater : ∀ t ∈ later, t.isSettled = true)
    (hsessions : w.registry.sessions = s :: later) (hcount : k ≤ w.world.count op)
    (hlost : lost.length = if op = .writeScope then 1 else 0)
    (ha : Accords lost (if op = .startTest then 1 else 0) done s w.world.state.report) :
    ∃ w', Runs (drainAll ⟨reporter.failing (op.failsAt k), isAfterAll, synchronised⟩) w () w'
      ∧ w'.registry = { w.registry with sessions := [], draining := false }
      ∧ w'.world.state.report.Recovered op (done ++ (s :: later).flatMap (·.log)) := by
  rcases drainAll_accords (m := ⟨reporter.failing (op.failsAt k), isAfterAll, synchronised⟩)
    (Desk.serves_afterFailure hreporter op k) (Desk.advances_failing hreporter _) hids hlater
    hsessions ⟨hcount, rfl⟩ ha with ⟨w', hruns, hregistry, s', b, ⟨-, rfl⟩, ha', hc, hs⟩
      | ⟨e, w', _, _, _, _, _, _, _, _, hbroken⟩
  · exact ⟨w', hruns, hregistry, ha'.recovered hlost hc hs⟩
  · exact hbroken.refuses.elim

/-- A registry is drained into a fresh report in memory, and one call fails before it has done
anything, the `k`-th one of `op`. If that call comes, the drain fails with its error. The session
that was being replayed stays, and so do those after it. The report then counts the sessions before
and the messages of this one that were replayed before the call, `read`. Draining the registry again
succeeds and empties it. Each start of a test is then reported by a test of its own, under its own
handle, and those in `read` by a second one. So is each start of a suite or a test by a scope. Only
the scope that was not written for the failure is lost, and the scope of a test that was not started
is one more. -/
theorem recovered_drainAll {reporter : Reporter Desk ReportError}
    (hreporter : Desk.IsReporter reporter) (op : Operation) (k : Nat) (isAfterAll : String → Bool)
    (synchronised : Bool) {start : Workspace (Counted Desk)} {disk : FileTree}
    (hids : (start.registry.sessions.map (·.contextId)).Nodup)
    (hsettled : ∀ s ∈ start.registry.sessions, s.isSettled = true)
    (hreport : start.world.state.report = .inMemory disk) :
    (∃ w, Runs (drainAll ⟨reporter.failing (op.failsAt k), isAfterAll, synchronised⟩) start () w
        ∧ Counted.Spares (op.failsAt k) start.world w.world)
      ∨ ∃ w earlier s s' later read,
        drainAll ⟨reporter.failing (op.failsAt k), isAfterAll, synchronised⟩ start
          = .error (.injected op) w
        ∧ start.registry.sessions = earlier ++ s :: later
        ∧ w.registry = { start.registry with sessions := s' :: later, draining := false }
        ∧ s.SameLog s' ∧ read <+: s.log
        ∧ w.world.state.report.Counts (earlier.flatMap (·.log) ++ read)
          (if op = .startTest then 1 else 0)
        ∧ ∃ w', Runs (drainAll ⟨reporter.failing (op.failsAt k), isAfterAll, synchronised⟩) w () w'
          ∧ w'.registry = { start.registry with sessions := [], draining := false }
          ∧ w'.world.state.report.Recovered op
            (earlier.flatMap (·.log) ++ read ++ (s :: later).flatMap (·.log)) := by
  rcases drainAll_traced (m := ⟨reporter.failing (op.failsAt k), isAfterAll, synchronised⟩)
    (Desk.advances_failing hreporter _) hids with
    ⟨w, hruns, -, hcalls⟩ | ⟨e, w, earlier₀, s₀, _, later₀, _, herror₀, hinterrupted, -⟩
  · exact .inl ⟨w, hruns, hcalls.spares⟩
  right
  -- the first drain
  obtain ⟨first, rest, hsessions⟩ : ∃ first rest, start.registry.sessions = first :: rest := by
    rw [hinterrupted.sessions]
    cases earlier₀ with
    | nil => exact ⟨_, _, rfl⟩
    | cons t earlier₀ => exact ⟨_, _, rfl⟩
  obtain ⟨r, world⟩ := start
  have hsettled' := hsessions ▸ hsettled
  have hfresh : Accords [] 0 [] first (Backend.inMemory disk) :=
    (Backend.accords_inMemory disk "" []).next rfl rfl (hsettled' first List.mem_cons_self)
  rcases drainAll_accords (m := ⟨reporter.failing (op.failsAt k), isAfterAll, synchronised⟩)
    (Desk.serves_beforeFailure hreporter op k) (Desk.advances_failing hreporter _)
    (hsessions ▸ hids) (fun t ht => hsettled' t (List.mem_cons_of_mem _ ht)) hsessions hreport
    hfresh with
    ⟨w', hruns, -⟩ | ⟨e', w', op', earlier, s, s', later, read, herror, hsplit, hbroken⟩
  -- the first drain has failed
  · rw [Runs, herror₀] at hruns
    cases hruns
  obtain ⟨rfl, rfl⟩ := hbroken.refuses
  obtain ⟨b, ⟨hcount, rfl⟩, more, hmore, ha⟩ := hbroken.report
  rw [List.append_nil, Nat.zero_add, List.nil_append] at ha
  refine ⟨w', earlier, s, s', later, read, herror, hsessions.trans hsplit, hbroken.registry,
    hbroken.sameLog, hbroken.begins, ha.counts, ?_⟩
  -- the second drain
  have hids' : ((s' :: later).map (·.contextId)).Nodup := by
    rw [hsessions.trans hsplit, List.map_append] at hids
    rw [List.map_cons, hbroken.sameLog.contextId]
    exact (List.nodup_append.1 hids).2.1
  -- the sessions that are left are settled
  have hlater : ∀ t ∈ later, t.isSettled = true := by
    intro t ht
    refine hsettled t ?_
    rw [hsessions.trans hsplit]
    exact List.mem_append_right _ (List.mem_cons_of_mem _ ht)
  obtain ⟨w'', hruns, hregistry, hrecovered⟩ := exists_recovered hreporter isAfterAll synchronised
    hids' hlater (by rw [hbroken.registry]) hcount hmore ha
  rw [List.flatMap_cons, hbroken.sameLog.log, ← List.flatMap_cons] at hrecovered
  rw [hbroken.registry] at hregistry
  exact ⟨w'', hruns, hregistry, hrecovered⟩

/-- The second test is not written at first, so its context is replayed twice. -/
theorem recovered_drainAll_second :
    ∃ w w' log,
      drainAll ⟨Desk.reporter.failing (Operation.failsAt .writeTest 2), fun _ => false, true⟩
        ⟨threeContexts, ⟨{}, fun _ => 0⟩⟩ = .error (.injected .writeTest) w
      ∧ Runs (drainAll
        ⟨Desk.reporter.failing (Operation.failsAt .writeTest 2), fun _ => false, true⟩) w () w'
      ∧ w'.registry = { threeContexts with sessions := [] }
      ∧ w'.world.state.report.Recovered .writeTest log := by
  have herror : error?
      (drainAll ⟨Desk.reporter.failing (Operation.failsAt .writeTest 2), fun _ => false, true⟩)
      ⟨threeContexts, ⟨{}, fun _ => 0⟩⟩ = some (.injected .writeTest) := by decide +kernel
  obtain ⟨w, hfails⟩ := exists_of_error?_eq_some herror
  have hids : ((⟨threeContexts, ⟨{}, fun _ => 0⟩⟩ :
      Workspace (Counted Desk)).registry.sessions.map (·.contextId)).Nodup := by decide
  have hfresh : (⟨threeContexts, ⟨{}, fun _ => 0⟩⟩ : Workspace (Counted Desk)).world.state.report
      = .inMemory {} := rfl
  rcases recovered_drainAll (.inl rfl) .writeTest 2 (fun _ => false) true hids (by decide)
    hfresh with
    ⟨w', hruns, -⟩ | ⟨w, _, _, _, _, _, herror, -, -, -, -, -, w', hruns, hregistry, hrecovered⟩
  -- the failure has come about, so the first case is out
  · rw [Runs, hfails] at hruns
    cases hruns
  · exact ⟨w, w', _, herror, hruns, hregistry, hrecovered⟩

/-- A context with a single test. -/
def oneTest : Registry where
  sessions := [{ contextId := "0-0", log := [.testStart "a" 1] }]

/-- The test is begun before the failure, so it is reported twice in the end, and not once. -/
theorem drainAll_again_twice :
    ∃ w w', drainAll ⟨Desk.reporter.failing (Operation.failsAt .writeTest 1), fun _ => false, true⟩
        ⟨oneTest, ⟨{}, fun _ => 0⟩⟩ = .error (.injected .writeTest) w
      ∧ Runs (drainAll
        ⟨Desk.reporter.failing (Operation.failsAt .writeTest 1), fun _ => false, true⟩) w () w'
      ∧ ¬(w'.world.state.report.writtenTests.map fun r => (r.name, r.start)).Perm
        ((oneTest.sessions.flatMap (·.log)).filterMap (·.testStart?)) := by
  -- the two drains are evaluated one after the other
  have htwice : (retried? (drainAll
      ⟨Desk.reporter.failing (Operation.failsAt .writeTest 1), fun _ => false, true⟩)
      ⟨oneTest, ⟨{}, fun _ => 0⟩⟩).map (fun p => (p.1, p.2.world.state.report.writtenTests.length))
        = some (.injected .writeTest, 2) := by
    decide +kernel
  obtain ⟨⟨e, w'⟩, hretried, hend⟩ := Option.map_eq_some_iff.1 htwice
  obtain ⟨rfl, hlength⟩ : e = .injected .writeTest
      ∧ w'.world.state.report.writtenTests.length = 2 := by
    simpa only [Prod.mk.injEq] using hend
  obtain ⟨w, herror, hruns⟩ := exists_of_retried?_eq_some hretried
  refine ⟨w, w', herror, hruns, fun hperm => ?_⟩
  -- the log starts one test, and the report has two
  have hone := hperm.length_eq
  rw [List.length_map, hlength] at hone
  exact absurd hone (by decide)

end Workspace

end Chronicle
