import Chronicle.Proofs.Replay.Addition
import Chronicle.Proofs.Report.Order

/-!
# What the file of a scope shows of its fixtures

A fixture stays in the report after its scope has been written, and goes on changing there until it
is stopped. So the file of the scope may show it as it was while it ran. `Backend.shownScope` is
what the file shows; no later step changes that, and `Backend.shownScope_eq_iff` says that it is the
record of the scope just if all fixtures had been stopped before the scope was written.
-/
namespace Chronicle

/-- Whether a fixture was stopped before a scope was written. -/
def StoppedFirst (calls : List (Operation × Handle)) (fixture scope : Handle) : Prop :=
  (.stopFixture, fixture) ∈ calls.takeWhile (· ≠ (.writeScope, scope))

instance (calls : List (Operation × Handle)) (fixture scope : Handle) :
    Decidable (StoppedFirst calls fixture scope) :=
  inferInstanceAs (Decidable (_ ∈ _))

/-- A fixture that was stopped first has been stopped. -/
theorem StoppedFirst.mem {calls : List (Operation × Handle)} {fixture scope : Handle}
    (h : StoppedFirst calls fixture scope) : (.stopFixture, fixture) ∈ calls :=
  (List.takeWhile_sublist _).subset h

/-- Once a scope has been written, no later call counts. -/
private theorem stoppedFirst_append {calls : List (Operation × Handle)} {scope : Handle}
    (hscope : (.writeScope, scope) ∈ calls) (later : List (Operation × Handle)) (fixture : Handle) :
    StoppedFirst (calls ++ later) fixture scope ↔ StoppedFirst calls fixture scope := by
  have hlength : (calls.takeWhile (· ≠ (Operation.writeScope, scope))).length ≠ calls.length := by
    intro heq
    have hall := List.takeWhile_eq_self_iff.1 ((List.takeWhile_prefix _).eq_of_length heq)
    simpa using hall _ hscope
  rw [StoppedFirst, StoppedFirst, List.takeWhile_append, if_neg hlength]

/-- When a scope is written, whatever has been stopped was stopped first. -/
private theorem stoppedFirst_snoc {calls : List (Operation × Handle)} {scope : Handle}
    (hscope : (.writeScope, scope) ∉ calls) (fixture : Handle) :
    StoppedFirst (calls ++ [(.writeScope, scope)]) fixture scope
      ↔ (.stopFixture, fixture) ∈ calls := by
  have hall : ∀ call ∈ calls, decide (call ≠ (Operation.writeScope, scope)) = true := by
    intro call hcall
    apply decide_eq_true
    intro heq
    exact hscope (heq ▸ hcall)
  rw [StoppedFirst, List.takeWhile_append_of_pos hall]
  simp

namespace FixtureResult

/-- The record of the fixture when it started. -/
def atStart (r : FixtureResult) : FixtureResult :=
  { handle := r.handle, name := r.name, kind := r.kind, start := r.start }

/-- What a fixture was at its start is not changed by its end. -/
private theorem atStart_ended {f : FixtureResult → FixtureResult} (hf : ChangesOutcome f)
    (stop duration : Option Int) (r : FixtureResult) :
    ((f r).stopped stop duration).atStart = r.atStart := by
  obtain ⟨status, details, heq⟩ := hf r
  rw [heq]
  rfl

/-- A running fixture is finished by its end. -/
private theorem stage_ended {f : FixtureResult → FixtureResult} (hf : ChangesOutcome f)
    (stop duration : Option Int) {r : FixtureResult} (hr : r.stage = .running) :
    ((f r).stopped stop duration).stage = .finished := by
  obtain ⟨status, details, heq⟩ := hf r
  rw [heq]
  show stoppedStage r.stage = .finished
  rw [hr]
  rfl

end FixtureResult

namespace Table

variable {α : Type} {t : Table α} {h h' : Handle}

/-- The entry that is changed is found as it is after the change. -/
theorem get?_change_self {a : α} (hget : t.get? h = some a) (f : α → α) :
    (t.change h f).get? h = some (f a) := by
  induction t with
  | nil => cases hget
  | cons e rest ih =>
    obtain ⟨x, a'⟩ := e
    by_cases heq : x = h
    -- the first entry is the one that changes
    · subst heq
      rw [get?_cons_self] at hget
      simp only [change, List.map_cons, if_true, get?_cons_self, Option.some.inj hget]
    · have hne : (h == x) = false := by simpa using Ne.symm heq
      simp only [get?, change, List.map_cons, if_neg heq, List.lookup_cons, hne] at hget ⊢
      exact ih hget

/-- Any other entry is found as it was. -/
theorem get?_change_of_ne (hne : h' ≠ h) (f : α → α) : (t.change h f).get? h' = t.get? h' := by
  induction t with
  | nil => rfl
  | cons e rest ih =>
    obtain ⟨x, a⟩ := e
    by_cases heq : x = h
    -- the entry that changes is not the one looked up
    · have hx : (h' == x) = false := by simpa [heq] using hne
      simp only [get?, change, List.map_cons, if_pos heq, List.lookup_cons, hx] at ih ⊢
      exact ih
    · simp only [get?, change, List.map_cons, if_neg heq, List.lookup_cons] at ih ⊢
      rw [ih]

/-- An entry under a new handle does not hide another. -/
theorem get?_insert_of_ne (hne : h' ≠ h) (a : α) : (t.insert h a).get? h' = t.get? h' := by
  have hx : (h' == h) = false := by simpa using hne
  simp only [get?, insert, List.lookup_cons, hx]

/-- A handle of a table has an entry. -/
theorem exists_get? (hh : h ∈ t.handles) : ∃ a, t.get? h = some a := by
  cases hget : t.get? h with
  | some a => exact ⟨a, rfl⟩
  | none =>
    obtain ⟨e, he, rfl⟩ := List.mem_map.1 hh
    have hnone := List.lookup_eq_none_iff.1 hget e he
    simp at hnone

/-- What is found after a change. -/
theorem get?_change (t : Table α) (h h' : Handle) (f : α → α) :
    (t.change h f).get? h' = (t.get? h').map fun a => if h' = h then f a else a := by
  by_cases heq : h' = h
  · subst heq
    cases hget : t.get? h' with
    -- a handle with no entry is found neither before nor after
    | none =>
      have hnot : h' ∉ t.handles := fun hmem => by
        obtain ⟨a, ha⟩ := exists_get? hmem
        cases hget.symm.trans ha
      rw [change_of_not_mem hnot, hget, Option.map_none]
    | some a => rw [get?_change_self hget, Option.map_some, if_pos rfl]
  · rw [get?_change_of_ne heq]
    simp [heq]

end Table

namespace Backend

variable {b b' : Backend}

/-! ### What a step does to fixtures -/

/-- The effect of a step on fixtures: none, or one starts, or one that runs is finished. -/
inductive FixtureEffect (b b' : Backend) : Prop
  | none (hfixtures : b'.fixtures = b.fixtures) (hrunning : b'.running = b.running)
      (hdrawn : b.drawn ≤ b'.drawn)
      (hcalls : ∀ x, (.stopFixture, x) ∈ b'.calls ↔ (.stopFixture, x) ∈ b.calls)
  | start {r : FixtureResult} (hr : r = r.atStart)
      (hfixtures : b'.fixtures = b.fixtures.insert (.drawn b.drawn) r)
      (hrunning : b'.running = .drawn b.drawn :: b.running) (hdrawn : b'.drawn = b.drawn + 1)
      (hcalls : ∀ x, (.stopFixture, x) ∈ b'.calls ↔ (.stopFixture, x) ∈ b.calls)
  | finish {h : Handle} (hh : h ∈ b.running) {f : FixtureResult → FixtureResult}
      (hf : ∀ r, (f r).atStart = r.atStart)
      (hstage : ∀ r, r.stage = .running → (f r).stage = .finished)
      (hfixtures : b'.fixtures = b.fixtures.change h f)
      (hrunning : b'.running = b.running.filter (· != h)) (hdrawn : b'.drawn = b.drawn)
      (hcalls : ∀ x, (.stopFixture, x) ∈ b'.calls ↔ x = h ∨ (.stopFixture, x) ∈ b.calls)

/-- A call of another operation stops no fixture. -/
private theorem stopFixture_mem_snoc {op : Operation} (hop : op ≠ .stopFixture) (x : Handle)
    (calls : List (Operation × Handle)) (h : Handle) :
    (.stopFixture, h) ∈ calls ++ [(op, x)] ↔ (.stopFixture, h) ∈ calls := by
  simp [Ne.symm hop]

/-- A step starts a fixture, finishes one, or leaves all of them alone. -/
theorem Step.fixtureEffect (hstep : Step b b') : FixtureEffect b b' := by
  cases hstep with
  | startScope =>
    exact .none rfl rfl (Nat.le_succ _) (stopFixture_mem_snoc (by decide) _ _)
  | writeScope hs hsave =>
    obtain ⟨disk, saved, rfl⟩ := hsave.eq
    exact .none rfl rfl (Nat.le_refl _) (stopFixture_mem_snoc (by decide) _ _)
  | startTest name start path =>
    exact .none rfl rfl (Nat.le_succ _) (stopFixture_mem_snoc (by decide) _ _)
  | changeTest ht hop hf =>
    refine .none rfl rfl (Nat.le_refl _) (stopFixture_mem_snoc ?_ _ _)
    -- none of these operations stops a fixture
    rcases hop with rfl | rfl | rfl <;> decide
  | attach ht file hsave =>
    obtain ⟨disk, saved, rfl⟩ := hsave.eq
    exact .none rfl rfl (Nat.le_succ _) (stopFixture_mem_snoc (by decide) _ _)
  | writeTest ht hsave =>
    obtain ⟨disk, saved, rfl⟩ := hsave.eq
    exact .none rfl rfl (Nat.le_refl _) (stopFixture_mem_snoc (by decide) _ _)
  | startFixture hh kind name start =>
    exact .start rfl rfl rfl rfl (stopFixture_mem_snoc (by decide) _ _)
  -- an ending and a stop both finish a fixture that runs
  | endFixture hh hf stop duration =>
    refine .finish hh (FixtureResult.atStart_ended hf stop duration)
      (fun _ => FixtureResult.stage_ended hf stop duration) rfl rfl rfl fun x => ?_
    simp [or_comm]
  | stopFixture hh stop duration =>
    refine .finish (f := (·.stopped stop duration)) hh (fun _ => rfl) (fun _ hr => ?_) rfl rfl rfl
      fun x => ?_
    · exact FixtureResult.stage_ended (f := id) (fun r => ⟨r.status, r.details, rfl⟩) _ _ hr
    · simp [or_comm]

/-! ### Fixtures that run, and fixtures that have been stopped -/

/-- How far a fixture has come: it runs, or it has been stopped. -/
inductive Phase (b : Backend) (h : Handle) (r : FixtureResult) : Prop
  | running (hrunning : h ∈ b.running) (hcalls : (.stopFixture, h) ∉ b.calls) (hr : r = r.atStart)
  | stopped (hrunning : h ∉ b.running) (hcalls : (.stopFixture, h) ∈ b.calls)
      (hr : r.stage = .finished)

/-- What is known about the fixtures of a report. -/
structure Attended (b : Backend) : Prop where
  drawn : Drawn b.fixtures.handles b.drawn
  phases : ∀ e ∈ b.fixtures, b.Phase e.1 e.2
  running : ∀ h ∈ b.running, h ∈ b.fixtures.handles
  stopped : ∀ h, (.stopFixture, h) ∈ b.calls → h ∈ b.fixtures.handles

/-- The phase of a fixture is decided by the fixtures that run and by the calls. -/
theorem Phase.congr {h : Handle} {r : FixtureResult} (hp : b.Phase h r)
    (hrunning : h ∈ b'.running ↔ h ∈ b.running)
    (hcalls : (.stopFixture, h) ∈ b'.calls ↔ (.stopFixture, h) ∈ b.calls) : b'.Phase h r := by
  cases hp with
  | running hmem hnot hr => exact .running (hrunning.2 hmem) (mt hcalls.1 hnot) hr
  | stopped hnot hmem hr => exact .stopped (mt hrunning.1 hnot) (hcalls.2 hmem) hr

/-- Fixtures stay attended when they are left alone. -/
private theorem attended_of_none (ha : b.Attended) (hf : b'.fixtures = b.fixtures)
    (hr : b'.running = b.running) (hd : b.drawn ≤ b'.drawn)
    (hc : ∀ x, (.stopFixture, x) ∈ b'.calls ↔ (.stopFixture, x) ∈ b.calls) : b'.Attended := by
  refine ⟨hf ▸ ha.drawn.mono hd, ?_, ?_, ?_⟩
  · rw [hf]
    intro e hmem
    exact (ha.phases e hmem).congr (by rw [hr]) (hc e.1)
  · rw [hf, hr]
    exact ha.running
  · rw [hf]
    intro h hmem
    exact ha.stopped h ((hc h).1 hmem)

/-- Fixtures stay attended when one is started under a new handle. -/
private theorem attended_of_start {r : FixtureResult} (ha : b.Attended) (hrun : r = r.atStart)
    (hf : b'.fixtures = b.fixtures.insert (.drawn b.drawn) r)
    (hr : b'.running = .drawn b.drawn :: b.running) (hd : b'.drawn = b.drawn + 1)
    (hc : ∀ x, (.stopFixture, x) ∈ b'.calls ↔ (.stopFixture, x) ∈ b.calls) : b'.Attended := by
  have hnew : ∀ h ∈ b.fixtures.handles, h ≠ .drawn b.drawn := by
    intro h hmem
    exact (ha.drawn.isBefore h hmem).ne_drawn
  refine ⟨?_, ?_, ?_, ?_⟩
  · rw [hf, hd]
    exact ha.drawn.cons
  · rw [hf]
    refine List.forall_mem_cons.2 ⟨?_, fun e hmem => ?_⟩
    -- the new fixture runs, and was never stopped
    · refine .running (hr ▸ List.mem_cons_self) (fun hmem => ?_) hrun
      exact hnew _ (ha.stopped _ ((hc _).1 hmem)) rfl
    -- an older one is in the phase it was in
    · have hne := hnew e.1 (List.mem_map_of_mem hmem)
      exact (ha.phases e hmem).congr (by simp [hr, hne]) (hc e.1)
  · rw [hf, hr]
    refine List.forall_mem_cons.2 ⟨List.mem_cons_self, fun h hmem => ?_⟩
    exact List.mem_cons_of_mem _ (ha.running h hmem)
  · rw [hf]
    intro h hmem
    exact List.mem_cons_of_mem _ (ha.stopped h ((hc h).1 hmem))

/-- Fixtures stay attended when one that runs is finished. -/
private theorem attended_of_finish {h : Handle} {f : FixtureResult → FixtureResult}
    (ha : b.Attended) (hh : h ∈ b.running)
    (hstage : ∀ r, r.stage = .running → (f r).stage = .finished)
    (hf : b'.fixtures = b.fixtures.change h f) (hr : b'.running = b.running.filter (· != h))
    (hd : b'.drawn = b.drawn)
    (hc : ∀ x, (.stopFixture, x) ∈ b'.calls ↔ x = h ∨ (.stopFixture, x) ∈ b.calls) :
    b'.Attended := by
  refine ⟨?_, ?_, ?_, ?_⟩
  · rw [hf, hd, Table.handles_change]
    exact ha.drawn
  · rw [hf]
    intro e hmem
    obtain ⟨e₀, he₀, rfl⟩ := List.mem_map.1 hmem
    by_cases heq : e₀.1 = h
    · -- the fixture that is finished has been running until now
      rw [if_pos heq]
      have hrun : e₀.2.stage = .running := by
        cases ha.phases e₀ he₀ with
        | running _ _ hrun => rw [hrun]; rfl
        | stopped hnot => exact absurd (heq ▸ hh) hnot
      exact .stopped (by simp [hr, heq]) (by simp [hc, heq]) (hstage _ hrun)
    -- any other is in the phase it was in
    · rw [if_neg heq]
      exact (ha.phases e₀ he₀).congr (by simp [hr, heq]) (by simp [hc, heq])
  · rw [hf, hr, Table.handles_change]
    intro x hmem
    exact ha.running x (List.mem_filter.1 hmem).1
  · rw [hf, Table.handles_change]
    intro x hmem
    rcases (hc x).1 hmem with rfl | hmem
    · exact ha.running x hh
    · exact ha.stopped x hmem

/-- Fixtures stay attended, whatever the effect. -/
theorem FixtureEffect.attended (he : FixtureEffect b b') (ha : b.Attended) : b'.Attended := by
  cases he with
  | none hf hr hd hc => exact attended_of_none ha hf hr hd hc
  | start hrun hf hr hd hc => exact attended_of_start ha hrun hf hr hd hc
  | finish hh _ hstage hf hr hd hc => exact attended_of_finish ha hh hstage hf hr hd hc

/-- A fixture keeps what is known since its start, and one that does not run keeps everything. -/
theorem FixtureEffect.exists_get? (he : FixtureEffect b b') (ha : b.Attended) {h : Handle}
    {r : FixtureResult} (hget : b.fixtures.get? h = some r) :
    ∃ r', b'.fixtures.get? h = some r' ∧ r'.atStart = r.atStart ∧ (h ∉ b.running → r' = r) := by
  cases he with
  | none hfixtures => exact ⟨r, by rw [hfixtures, hget], rfl, fun _ => rfl⟩
  | start hrun hfixtures =>
    have hmem : h ∈ b.fixtures.handles := List.mem_map_of_mem (Table.mem_of_get? hget)
    have hne := (ha.drawn.isBefore h hmem).ne_drawn
    exact ⟨r, by rw [hfixtures, Table.get?_insert_of_ne hne, hget], rfl, fun _ => rfl⟩
  | @finish x hx f hf _ hfixtures =>
    rw [hfixtures]
    -- only the fixture that is finished is changed, and that was running
    by_cases heq : h = x
    · subst heq
      exact ⟨f r, Table.get?_change_self hget f, hf r, fun hnot => absurd hx hnot⟩
    · exact ⟨r, (Table.get?_change_of_ne heq f).trans hget, rfl, fun _ => rfl⟩

/-- No fixture is forgotten. -/
private theorem FixtureEffect.handles_subset (he : FixtureEffect b b') :
    b.fixtures.handles ⊆ b'.fixtures.handles := by
  cases he with
  | none hfixtures => rw [hfixtures]; exact List.Subset.refl _
  | start hrun hfixtures => rw [hfixtures]; exact List.subset_cons_self _ _
  | finish hh hf hstage hfixtures =>
    rw [hfixtures, Table.handles_change]
    exact List.Subset.refl _

/-! ### Scopes and their fixtures -/

/-- Scopes list fixtures of the report, and a scope has been written if a call says so. -/
structure Listing (b : Backend) : Prop where
  scopes : ∀ e ∈ b.scopes, ∀ h ∈ e.2.fixtures, h ∈ b.fixtures.handles
  written : ∀ s ∈ b.writtenScopes, ∀ h ∈ s.fixtures, h ∈ b.fixtures.handles
  writes : ∀ h, (.writeScope, h) ∈ b.calls ↔ h ∈ b.writtenScopes.map (·.handle)

/-- What scopes list has records, after a step as before. -/
theorem Step.listing (hstep : Step b b') (hk : b.Keyed) (hl : b.Listing) : b'.Listing := by
  have hsubset := hstep.fixtureEffect.handles_subset
  have hscopes : ∀ e ∈ b.scopes, ∀ h ∈ e.2.fixtures, h ∈ b'.fixtures.handles :=
    fun e he h hh => hsubset (hl.scopes e he h hh)
  have hwritten : ∀ s ∈ b.writtenScopes, ∀ h ∈ s.fixtures, h ∈ b'.fixtures.handles :=
    fun s hs h hh => hsubset (hl.written s hs h hh)
  -- only one step writes a scope
  have hwrites : ∀ {more : List (Operation × Handle)}, (∀ call ∈ more, call.1 ≠ .writeScope) → ∀ h,
      (.writeScope, h) ∈ b.calls ++ more ↔ h ∈ b.writtenScopes.map (·.handle) := by
    intro more hmore h
    rw [← hl.writes h, List.mem_append, or_iff_left fun hmem => hmore _ hmem rfl]
  cases hstep with
  -- a new scope lists nothing
  | startScope =>
    exact ⟨List.forall_mem_cons.2 ⟨nofun, hscopes⟩, hwritten, hwrites (by simp)⟩
  -- the scope moves to the written ones with its list
  | @writeScope _ scope s hs hsave =>
    obtain ⟨disk, saved, rfl⟩ := hsave.eq
    have hmem := Table.mem_of_get? hs
    refine ⟨?_, ?_, ?_⟩
    · intro e he
      exact hscopes e (Table.mem_of_mem_remove he)
    · refine List.forall_mem_append.2 ⟨hwritten, ?_⟩
      exact List.forall_mem_singleton.2 (hscopes _ hmem)
    · intro h
      have hhandle : s.handle = scope := hk.scopes _ hmem
      rw [List.mem_append, hl.writes h, List.map_append, List.mem_append]
      simp [hhandle]
  | startTest name start path =>
    refine ⟨?_, hwritten, hwrites (by simp)⟩
    exact Table.forall_foldl_change (P := fun e : Handle × Scope => ∀ h ∈ e.2.fixtures, h ∈ _)
      hscopes path fun _ _ hlisted => hlisted
  | changeTest ht hop hf =>
    refine ⟨hscopes, hwritten, hwrites ?_⟩
    rcases hop with rfl | rfl | rfl <;> simp
  | attach ht file hsave =>
    obtain ⟨disk, saved, rfl⟩ := hsave.eq
    exact ⟨hscopes, hwritten, hwrites (by simp)⟩
  | writeTest ht hsave =>
    obtain ⟨disk, saved, rfl⟩ := hsave.eq
    exact ⟨hscopes, hwritten, hwrites (by simp)⟩
  -- the scope lists the new fixture besides the older ones
  | startFixture hh kind name start =>
    refine ⟨?_, hwritten, hwrites (by simp)⟩
    show ∀ e ∈ b.scopes.change _ (·.addFixture kind (.drawn b.drawn)), ∀ h ∈ e.2.fixtures,
      h ∈ .drawn b.drawn :: b.fixtures.handles
    apply Table.forall_change hscopes
    intro s hlisted h hmem
    rcases Scope.mem_fixtures_addFixture.1 hmem with rfl | hmem
    · exact List.mem_cons_self
    · exact hlisted h hmem
  | endFixture hh hf stop duration => exact ⟨hscopes, hwritten, hwrites (by simp)⟩
  | stopFixture hh stop duration => exact ⟨hscopes, hwritten, hwrites (by simp)⟩

/-! ### Files of scopes -/

/-- What the file of a scope shows of a fixture: its record, if it was stopped before the scope was
written, and else its record at the start. -/
def shownFixture (b : Backend) (scope h : Handle) : Option FixtureResult :=
  if StoppedFirst b.calls h scope then b.fixtures.get? h
  else (b.fixtures.get? h).map (·.atStart)

/-- What the file of a scope shows. -/
def shownScope (b : Backend) (s : Scope) : ScopeResult where
  handle := s.handle
  children := s.children
  befores := s.befores.filterMap (b.shownFixture s.handle)
  afters := s.afters.filterMap (b.shownFixture s.handle)

/-- A step adds calls. -/
theorem Step.exists_calls (hstep : Step b b') : ∃ more, b'.calls = b.calls ++ more := by
  cases hstep with
  | writeScope _ hsave | attach _ _ hsave | writeTest _ hsave =>
    obtain ⟨disk, saved, rfl⟩ := hsave.eq
    exact ⟨_, rfl⟩
  | _ => exact ⟨_, rfl⟩

/-- The file of a scope that has been written goes on showing what it shows of a fixture. -/
private theorem Step.shownFixture_eq (hstep : Step b b') (ha : b.Attended) {scope h : Handle}
    (hscope : (.writeScope, scope) ∈ b.calls) (hh : h ∈ b.fixtures.handles) :
    b'.shownFixture scope h = b.shownFixture scope h := by
  obtain ⟨more, hcalls⟩ := hstep.exists_calls
  have hfirst : StoppedFirst b'.calls h scope ↔ StoppedFirst b.calls h scope := by
    rw [hcalls]
    exact stoppedFirst_append hscope more h
  obtain ⟨r, hget⟩ := Table.exists_get? hh
  -- the fixture is still there, with the start it had
  obtain ⟨r', hget', hstart, hsame⟩ := hstep.fixtureEffect.exists_get? ha hget
  rw [shownFixture, shownFixture, hget, hget']
  by_cases hstopped : StoppedFirst b.calls h scope
  · -- what has been stopped does not run, so it does not change
    have hidle : h ∉ b.running := by
      cases ha.phases _ (Table.mem_of_get? hget) with
      | running _ hcalls => exact absurd hstopped.mem hcalls
      | stopped hrunning => exact hrunning
    rw [if_pos hstopped, if_pos (hfirst.2 hstopped), hsame hidle]
  -- what has not been stopped first is shown at its start
  · rw [if_neg hstopped, if_neg (mt hfirst.1 hstopped), Option.map_some, Option.map_some, hstart]

/-- Scopes that agree on what they show of their fixtures agree. -/
private theorem shownScope_congr {s : Scope} {f : Handle → Option FixtureResult}
    (hf : ∀ h ∈ s.fixtures, b.shownFixture s.handle h = f h) :
    b.shownScope s
      = ⟨s.handle, s.children, s.befores.filterMap f, s.afters.filterMap f⟩ := by
  rw [shownScope, ScopeResult.mk.injEq]
  refine ⟨rfl, rfl, ?_, ?_⟩
  · exact List.filterMap_congr fun h hh => hf h (List.mem_append_left _ hh)
  · exact List.filterMap_congr fun h hh => hf h (List.mem_append_right _ hh)

/-- The file of a scope shows the same after a step. -/
theorem Step.shownScope_eq (hstep : Step b b') (ha : b.Attended) (hl : b.Listing) {s : Scope}
    (hs : s ∈ b.writtenScopes) : b'.shownScope s = b.shownScope s := by
  have hscope := (hl.writes s.handle).2 (List.mem_map_of_mem hs)
  exact shownScope_congr fun h hh => hstep.shownFixture_eq ha hscope (hl.written s hs h hh)

/-- The record of a scope at the moment when it is written is what its file shows. -/
theorem shownScope_of_written (ha : b.Attended) {s : Scope}
    (hs : ∀ h ∈ s.fixtures, h ∈ b.fixtures.handles) (hnew : (.writeScope, s.handle) ∉ b.calls)
    (hfixtures : b'.fixtures = b.fixtures)
    (hcalls : b'.calls = b.calls ++ [(.writeScope, s.handle)]) :
    b'.shownScope s = b.scopeResult s := by
  apply shownScope_congr
  intro h hh
  have hfirst : StoppedFirst b'.calls h s.handle ↔ (.stopFixture, h) ∈ b.calls := by
    rw [hcalls]
    exact stoppedFirst_snoc hnew h
  obtain ⟨r, hget⟩ := Table.exists_get? (hs h hh)
  rw [shownFixture, hfixtures, hget]
  cases ha.phases _ (Table.mem_of_get? hget) with
  -- a fixture that runs is shown at its start, and is still there
  | running _ hnot hr => rw [if_neg (mt hfirst.1 hnot), Option.map_some, ← hr]
  | stopped _ hstopped => rw [if_pos (hfirst.2 hstopped)]

/-- A fixture that has been stopped shows its record just if it was stopped first. -/
private theorem shownFixture_eq_iff (ha : b.Attended) (hidle : b.running = []) {scope h : Handle}
    (hh : h ∈ b.fixtures.handles) :
    b.shownFixture scope h = b.fixtures.get? h ↔ StoppedFirst b.calls h scope := by
  obtain ⟨r, hget⟩ := Table.exists_get? hh
  rw [shownFixture, hget]
  by_cases hstopped : StoppedFirst b.calls h scope
  -- stopped first, the fixture is shown as it is
  · simp [hstopped]
  · -- the record at the start is not finished
    have hdone : r.stage = .finished := by
      cases ha.phases _ (Table.mem_of_get? hget) with
      | running hrunning => exact absurd (hidle ▸ hrunning) List.not_mem_nil
      | stopped _ _ hdone => exact hdone
    have hne : r.atStart ≠ r := by
      intro heq
      rw [← heq] at hdone
      cases hdone
    simp [hstopped, hne]

/-- Two look-ups that find everything agree just if they find the same everywhere. -/
private theorem filterMap_eq_iff {α β : Type} {f g : α → Option β} {as : List α}
    (hf : ∀ a ∈ as, (f a).isSome) (hg : ∀ a ∈ as, (g a).isSome) :
    as.filterMap f = as.filterMap g ↔ ∀ a ∈ as, f a = g a := by
  induction as with
  | nil => simp
  | cons a rest ih =>
    obtain ⟨hfirst, hrest⟩ := List.forall_mem_cons.1 hf
    obtain ⟨hfirst', hrest'⟩ := List.forall_mem_cons.1 hg
    obtain ⟨x, hx⟩ := Option.isSome_iff_exists.1 hfirst
    obtain ⟨y, hy⟩ := Option.isSome_iff_exists.1 hfirst'
    rw [List.filterMap_cons_some hx, List.filterMap_cons_some hy, List.cons.injEq,
      ih hrest hrest', List.forall_mem_cons, hx, hy, Option.some.injEq]

/-- Once no fixture runs, the file of a scope shows its record just if all its fixtures had been
stopped before the scope was written. -/
theorem shownScope_eq_iff (ha : b.Attended) (hidle : b.running = []) {s : Scope}
    (hs : ∀ h ∈ s.fixtures, h ∈ b.fixtures.handles) :
    b.shownScope s = b.scopeResult s ↔ ∀ h ∈ s.fixtures, StoppedFirst b.calls h s.handle := by
  -- every fixture that is listed is found, so the lists match one by one
  have hget : ∀ h ∈ s.fixtures, (b.fixtures.get? h).isSome := by
    intro h hh
    obtain ⟨r, hr⟩ := Table.exists_get? (hs h hh)
    rw [hr]
    rfl
  have hshown : ∀ h ∈ s.fixtures, (b.shownFixture s.handle h).isSome := by
    intro h hh
    rw [shownFixture]
    split
    · exact hget h hh
    · rw [Option.isSome_map]
      exact hget h hh
  rw [Scope.fixtures, List.forall_mem_append] at hget hshown
  -- a fixture is shown as it is just if it had stopped by then
  have hall : (∀ h ∈ s.fixtures, b.shownFixture s.handle h = b.fixtures.get? h)
      ↔ ∀ h ∈ s.fixtures, StoppedFirst b.calls h s.handle :=
    forall₂_congr fun h hh => shownFixture_eq_iff ha hidle (hs h hh)
  rw [← hall, shownScope, scopeResult, ScopeResult.mk.injEq,
    filterMap_eq_iff hshown.1 hget.1, filterMap_eq_iff hshown.2 hget.2, Scope.fixtures,
    List.forall_mem_append]
  simp

end Backend

end Chronicle
