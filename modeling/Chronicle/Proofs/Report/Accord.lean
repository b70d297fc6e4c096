import Chronicle.Proofs.Replay.Tally
import Chronicle.Proofs.Report.Fixtures

/-!
# Reports in accord with sessions

`Backend.Accords` is what a session and a report keep to while logs are replayed, whether or not
calls are refused: what is open in the report is what the session says, apart from scopes that have
been lost, and the report has one test and one scope for each message that starts one. There is a
lemma for each operation: it succeeds on what the session holds open, and leaves the two in accord.
-/
namespace Chronicle

/-- Whether a change of an open test leaves alone what it is known by. -/
structure OpenTest.KeepsStart (f : OpenTest → OpenTest) : Prop where
  handle : ∀ t, (f t).result.handle = t.result.handle
  name : ∀ t, (f t).result.name = t.result.name
  start : ∀ t, (f t).result.start = t.result.start

/-- The session without its test, which has been written. -/
def Session.withoutTest (s : Session) : Session :=
  { s with executables := [], currentTest := none, openSteps := 0 }

namespace Backend

/-- The names and times of all tests of a report, written or open. -/
def starts (b : Backend) : List (String × Int) :=
  b.writtenTests.map (fun r => (r.name, r.start))
    ++ b.tests.map fun e => (e.2.result.name, e.2.result.start)

/-- A report has a test for each start of a test in a log. It has a scope for each start of a suite
or a test, and some more. -/
structure Counts (log : List Message) (extra : Nat) (b : Backend) : Prop where
  tests : b.starts.Perm (log.filterMap (·.testStart?))
  scopes : b.scopeHandles.length = log.countP (·.kind.opensScope) + extra

/-- What is open in a report is what a session says, apart from lost scopes, and the report counts
the messages that have been replayed. -/
structure Accords (lost : List Handle) (extra : Nat) (done : List Message) (s : Session)
    (b : Backend) : Prop where
  memory : b.destination = .memory
  keyed : b.Keyed
  numbered : b.Numbered
  counts : b.Counts done extra
  scopes : b.scopes.handles.Perm (s.scopes ++ lost)
  tests : b.tests.handles = s.currentTest.toList
  /-- A test that has not ended is the open one. -/
  executables : s.executables = [] ∨ s.executables = s.currentTest.toList
  fixtures : Drawn s.fixtures b.drawn
  running : s.fixtures ⊆ b.running

/-- A call has been refused. If it was to write a scope, this one is lost; if it was to start a
test, the scope for it has been opened. -/
def BreaksOff (lost : List Handle) (extra : Nat) (done : List Message) (op : Operation)
    (s : Session) (b : Backend) : Prop :=
  ∃ more, more.length = (if op = .writeScope then 1 else 0)
    ∧ Accords (more ++ lost) (extra + if op = .startTest then 1 else 0) done s b

variable {lost : List Handle} {extra : Nat} {done : List Message} {op : Operation} {s : Session}
  {b : Backend} {h : Handle}

/-- A call that is refused breaks an accord off as it is, unless it writes a scope or starts a
test. -/
theorem Accords.breaksOff (ha : Accords lost extra done s b) (hscope : op ≠ .writeScope)
    (htest : op ≠ .startTest) : BreaksOff lost extra done op s b := by
  refine ⟨[], ?_, ?_⟩
  · rw [if_neg hscope, List.length_nil]
  · rwa [if_neg htest]

/-- Only the open test has not ended. -/
theorem Accords.eq_of_executables (ha : Accords lost extra done s b) {rest : List Handle}
    (hs : s.executables = h :: rest) : s.currentTest = some h ∧ rest = [] := by
  have hexecutables := ha.executables
  rw [hs] at hexecutables
  cases hc : s.currentTest <;> simp_all

/-! ### Counting -/

/-- A message that starts nothing does not count. -/
theorem Counts.snoc (hc : b.Counts done extra) {m : Message} (htest : m.testStart? = none)
    (hscope : m.kind.opensScope = false) : b.Counts (done ++ [m]) extra where
  tests := by simpa [List.filterMap_append, htest] using hc.tests
  scopes := by simpa [List.countP_append, hscope] using hc.scopes

/-- The scope of a suite is one that its start opens. -/
theorem Counts.snoc_suiteStart (hc : b.Counts done (extra + 1)) (name : String) (isFeature : Bool) :
    b.Counts (done ++ [.suiteStart name isFeature]) extra where
  tests := by simpa [List.filterMap_append, Message.testStart?] using hc.tests
  scopes := by
    have hopens : (Message.suiteStart name isFeature).kind.opensScope = true := rfl
    rw [hc.scopes, List.countP_append, List.countP_singleton, if_pos hopens]
    omega

/-- A change that leaves alone what tests are known by does not show in their names and times. -/
private theorem map_start_change {f : OpenTest → OpenTest} (hf : OpenTest.KeepsStart f)
    (t : Table OpenTest) (h : Handle) :
    (t.change h f).map (fun e => (e.2.result.name, e.2.result.start))
      = t.map fun e => (e.2.result.name, e.2.result.start) := by
  rw [Table.change, List.map_map]
  refine List.map_congr_left fun e _ => ?_
  by_cases heq : e.1 = h <;> simp [heq, hf.name, hf.start]

/-! ### Scopes -/

/-- A scope that starts is one too many until its message has been taken. -/
theorem Accords.startScope (ha : Accords lost extra done s b) :
    ∃ h b', Runs Backend.startScope b h b'
      ∧ Accords lost (extra + 1) done { s with scopes := h :: s.scopes } b' := by
  have hstep := Step.startScope b
  refine ⟨_, _, runs_startScope b, ha.memory, hstep.keyed ha.keyed,
    hstep.numbered ha.keyed ha.numbered, ⟨ha.counts.tests, ?_⟩, ha.scopes.cons _, ha.tests,
    ha.executables, ha.fixtures.mono (Nat.le_succ _), ha.running⟩
  exact congrArg (· + 1) ha.counts.scopes

/-- A scope that has been taken from the session is written before it is lost. -/
theorem Accords.writeScope (ha : Accords (h :: lost) extra done s b) :
    ∃ b', Runs (Backend.writeScope h) b () b' ∧ Accords lost extra done s b' := by
  -- a scope the session lets go of is still open in the report
  have hmem : h ∈ b.scopes.handles := ha.scopes.mem_iff.2 (by simp)
  obtain ⟨scope, hscope⟩ := Table.exists_get? hmem
  have hstep := Step.writeScope hscope (.memory ha.memory)
  -- the scope moves from the open ones to the written ones, so the count stays
  have hperm := Table.handles_perm_remove (List.nodup_append.1 ha.numbered.scopes.nodup).1 hmem
  refine ⟨_, runs_writeScope ha.memory hscope, ha.memory, hstep.keyed ha.keyed,
    hstep.numbered ha.keyed ha.numbered, ⟨ha.counts.tests, ?_⟩, ?_, ha.tests, ha.executables,
    ha.fixtures, ha.running⟩
  · have hlength := hperm.length_eq
    have hscopes := ha.counts.scopes
    simp only [scopeHandles, List.length_append, List.length_map, List.length_cons,
      List.length_nil] at hlength hscopes ⊢
    omega
  · exact (hperm.symm.trans (ha.scopes.trans List.perm_middle)).cons_inv

/-! ### Tests -/

/-- A test that starts takes the scope that was one too many for its own. -/
theorem Accords.startTest (ha : Accords lost (extra + 1) done s b) (hc : s.currentTest = none)
    (name : String) (start : Int) (path : List Handle) :
    ∃ h b', Runs (Backend.startTest name start path) b h b'
      ∧ Accords lost extra (done ++ [.testStart name start])
        { s with executables := h :: s.executables, currentTest := some h, openSteps := 0 } b' := by
  have hstep := Step.startTest b name start path
  -- without a current test the report has none open either
  have htests : b.tests = [] := by
    have htests := ha.tests
    rw [hc] at htests
    exact List.map_eq_nil_iff.1 htests
  have hexecutables : s.executables = [] := by
    have hexecutables := ha.executables
    rwa [hc, Option.toList_none, or_self] at hexecutables
  refine ⟨_, _, runs_startTest b name start path, ha.memory, hstep.keyed ha.keyed,
    hstep.numbered ha.keyed ha.numbered, ⟨?_, ?_⟩, ?_, ?_, .inr ?_,
    ha.fixtures.mono (Nat.le_succ _), ha.running⟩
  · have hcounts := ha.counts.tests
    rw [starts, htests, List.map_nil, List.append_nil] at hcounts
    simpa [starts, htests, Table.insert, List.filterMap_append, Message.testStart?] using
      hcounts.append_right [(name, start)]
  -- a test has a scope of its own, which is no longer the one too many
  · have hopens : (Message.testStart name start).kind.opensScope = true := rfl
    have hscopes := ha.counts.scopes
    simp only [scopeHandles, Table.handles_foldl_change] at hscopes ⊢
    rw [hscopes, List.countP_append, List.countP_singleton, if_pos hopens]
    omega
  · rw [Table.handles_foldl_change]
    exact ha.scopes
  · rw [htests]
    rfl
  · rw [hexecutables]
    rfl

/-- The entry of the test that is open. -/
private theorem Accords.exists_openTest (ha : Accords lost extra done s b)
    (hc : s.currentTest = some h) :
    ∃ t, b.tests = [(h, t)] := by
  have htests := ha.tests
  rw [hc] at htests
  obtain ⟨⟨x, t⟩, heq, hx⟩ := List.map_eq_singleton_iff.1 htests
  obtain rfl : x = h := hx
  exact ⟨t, heq⟩

/-- The current test is written, and the session is without one. -/
theorem Accords.writeTest (ha : Accords lost extra done s b) (hc : s.currentTest = some h) :
    ∃ b', Runs (Backend.writeTest h) b () b' ∧ Accords lost extra done s.withoutTest b' := by
  obtain ⟨t, htests⟩ := ha.exists_openTest hc
  have ht : b.tests.get? h = some t := by rw [htests, Table.get?_cons_self]
  -- it is the only test that is open
  have hremove : b.tests.remove h = [] := by
    rw [htests]
    exact Table.remove_cons_self List.not_mem_nil t
  have hstep := Step.writeTest ht (.memory ha.memory)
  refine ⟨_, runs_writeTest ha.memory ht, ha.memory, hstep.keyed ha.keyed,
    hstep.numbered ha.keyed ha.numbered, ⟨?_, ha.counts.scopes⟩, ha.scopes, ?_, .inl rfl,
    ha.fixtures, ha.running⟩
  -- closing steps changes neither the name nor the start of a test
  · have hsnapshot : (t.snapshot.name, t.snapshot.start) = (t.result.name, t.result.start) := by
      obtain ⟨r, _ | ⟨s, rest⟩⟩ := t <;> rfl
    have hcounts := ha.counts.tests
    rw [starts, htests] at hcounts
    simpa [starts, hremove, hsnapshot] using hcounts
  · simp only [hremove]
    rfl

/-- A change of the open test keeps a report as it was in all that matters here. -/
theorem Accords.changeTest (ha : Accords lost extra done s b) {f : OpenTest → OpenTest}
    (hf : OpenTest.KeepsStart f) (h : Handle) {drawn : Nat} (hdrawn : b.drawn ≤ drawn)
    (attachments : List (String × Bytes)) (calls : List (Operation × Handle)) :
    Accords lost extra done s
      { b with
        drawn := drawn
        tests := b.tests.change h f
        attachments := attachments
        calls := calls } where
  memory := ha.memory
  keyed := ⟨Table.forall_change ha.keyed.tests fun t ht => (hf.handle t).trans ht,
    ha.keyed.scopes, ha.keyed.fixtures⟩
  numbered := by
    -- a change that keeps the start of a test keeps the counts
    refine ⟨?_, ha.numbered.scopes.mono hdrawn⟩
    rw [testHandles, Table.handles_change]
    exact ha.numbered.tests.mono hdrawn
  counts := by
    refine ⟨?_, ha.counts.scopes⟩
    have htests := ha.counts.tests
    rwa [starts, ← map_start_change hf b.tests h] at htests
  scopes := ha.scopes
  tests := (Table.handles_change b.tests h f).trans ha.tests
  executables := ha.executables
  fixtures := ha.fixtures.mono hdrawn
  running := ha.running

/-- The current test is changed. -/
theorem Accords.updateTest (ha : Accords lost extra done s b) (hc : s.currentTest = some h)
    {f : TestResult → TestResult} (hf : OpenTest.KeepsStart (·.update f)) :
    ∃ b', Runs (Backend.updateTest h f) b () b' ∧ Accords lost extra done s b' := by
  obtain ⟨t, htests⟩ := ha.exists_openTest hc
  have ht : b.tests.get? h = some t := by rw [htests, Table.get?_cons_self]
  exact ⟨_, runs_updateTest ht f, ha.changeTest hf h (Nat.le_refl _) _ _⟩

/-- The current test is stopped, and stays the current one. -/
theorem Accords.stopTest (ha : Accords lost extra done s b) (hc : s.currentTest = some h)
    (stop duration : Option Int) :
    ∃ b', Runs (Backend.stopTest h stop duration) b () b' ∧ Accords lost extra done s b' := by
  obtain ⟨t, htests⟩ := ha.exists_openTest hc
  have ht : b.tests.get? h = some t := by rw [htests, Table.get?_cons_self]
  have hf : OpenTest.KeepsStart (·.update (·.stopped stop duration)) :=
    ⟨fun _ => rfl, fun _ => rfl, fun _ => rfl⟩
  exact ⟨_, runs_stopTest ht stop duration, ha.changeTest hf h (Nat.le_refl _) _ _⟩

/-- An entry is applied to the current test. -/
theorem Accords.applyMessages (ha : Accords lost extra done s b) (hc : s.currentTest = some h)
    (e : TestEntry) :
    ∃ b', Runs (Backend.applyMessages h [e]) b () b' ∧ Accords lost extra done s b' := by
  obtain ⟨t, htests⟩ := ha.exists_openTest hc
  have ht : b.tests.get? h = some t := by rw [htests, Table.get?_cons_self]
  -- whatever the entry does, the name and the start of the test stay
  refine ⟨_, runs_applyMessages ha.memory ht [e], ?_⟩
  cases e with
  | stepStart name start =>
    have hf : OpenTest.KeepsStart (·.openStep name start) :=
      ⟨fun _ => rfl, fun _ => rfl, fun _ => rfl⟩
    exact ha.changeTest hf h (Nat.le_refl _) _ _
  | stepStop status stop details =>
    have hf : OpenTest.KeepsStart (·.closeStep status stop details) := by
      refine ⟨?_, ?_, ?_⟩ <;> rintro ⟨r, _ | ⟨s, _ | ⟨outer, rest⟩⟩⟩ <;> rfl
    exact ha.changeTest hf h (Nat.le_refl _) _ _
  | metadata labels parameters =>
    have hf : OpenTest.KeepsStart (·.describe labels parameters) :=
      ⟨fun _ => rfl, fun _ => rfl, fun _ => rfl⟩
    exact ha.changeTest hf h (Nat.le_refl _) _ _
  | attachment file =>
    -- a handle is drawn for the source
    have hf : ∀ ref, OpenTest.KeepsStart (·.attach ref) := by
      intro ref
      refine ⟨?_, ?_, ?_⟩ <;> rintro ⟨r, _ | ⟨s, rest⟩⟩ <;> rfl
    exact ha.changeTest (hf _) h (Nat.le_succ _) _ _

/-! ### Fixtures -/

/-- A fixture starts in a scope that the session holds open. -/
theorem Accords.startFixture (ha : Accords lost extra done s b) (hh : h ∈ s.scopes)
    (kind : HookKind) (name : String) (start : Int) :
    ∃ x b', Runs (Backend.startFixture (some h) kind name start) b (some x) b'
      ∧ Accords lost extra done { s with fixtures := x :: s.fixtures } b' := by
  -- the scope is open in the session, so it is open in the report
  have hhas : b.scopes.has h = true := by
    obtain ⟨scope, hscope⟩ :=
      Table.exists_get? (ha.scopes.mem_iff.2 (List.mem_append_left lost hh))
    rw [Table.has, hscope, Option.isSome_some]
  have hstep := Step.startFixture hhas kind name start
  refine ⟨_, _, runs_startFixture hhas kind name start, ha.memory, hstep.keyed ha.keyed,
    hstep.numbered ha.keyed ha.numbered, ⟨ha.counts.tests, ?_⟩, ?_, ha.tests, ha.executables,
    ha.fixtures.cons, List.cons_subset_cons _ ha.running⟩
  · simpa only [scopeHandles, Table.handles_change] using ha.counts.scopes
  · rw [Table.handles_change]
    exact ha.scopes

/-- A fixture that is taken from the session still runs. -/
theorem Accords.takeFixture (ha : Accords lost extra done s b) {rest : List Handle}
    (hs : s.fixtures = h :: rest) :
    Accords lost extra done { s with fixtures := rest } b ∧ h ∈ b.running ∧ h ∉ rest := by
  have hfixtures := ha.fixtures
  have hrunning := ha.running
  rw [hs] at hfixtures hrunning
  obtain ⟨hnew, hnodup⟩ := List.nodup_cons.1 hfixtures.nodup
  obtain ⟨hmem, hrest⟩ := List.cons_subset.1 hrunning
  exact ⟨{ ha with
    fixtures := ⟨hnodup, fun x hx => hfixtures.isBefore x (List.mem_cons_of_mem _ hx)⟩
    running := hrest }, hmem, hnew⟩

/-- A fixture that is running is changed, and runs on. -/
theorem Accords.updateFixture (ha : Accords lost extra done s b) (hh : h ∈ b.running)
    (e : HookEnding) :
    ∃ b', Runs (Backend.updateFixture h (·.ended e)) b () b' ∧ Accords lost extra done s b'
      ∧ b'.running = b.running := by
  have hfixtures : ∀ x ∈ b.fixtures.change h (·.ended e), x.2.handle = x.1 := by
    apply Table.forall_change ha.keyed.fixtures
    intro r hr
    exact hr
  exact ⟨_, runs_updateFixture hh _, ⟨ha.memory, ⟨ha.keyed.tests, ha.keyed.scopes, hfixtures⟩,
    ⟨ha.numbered.tests, ha.numbered.scopes⟩, ⟨ha.counts.tests, ha.counts.scopes⟩, ha.scopes,
    ha.tests, ha.executables, ha.fixtures, ha.running⟩, rfl⟩

/-- A fixture that the session has let go of is stopped. -/
theorem Accords.stopFixture (ha : Accords lost extra done s b) (hh : h ∈ b.running)
    (hnew : h ∉ s.fixtures) (stop duration : Option Int) :
    ∃ b', Runs (Backend.stopFixture h stop duration) b () b' ∧ Accords lost extra done s b' := by
  have hstep := Step.stopFixture hh stop duration
  refine ⟨_, runs_stopFixture hh stop duration, ha.memory, hstep.keyed ha.keyed,
    hstep.numbered ha.keyed ha.numbered, ⟨ha.counts.tests, ha.counts.scopes⟩, ha.scopes, ha.tests,
    ha.executables, ha.fixtures, fun x hx => List.mem_filter.2 ⟨ha.running hx, ?_⟩⟩
  have hne : x ≠ h := fun heq => hnew (heq ▸ hx)
  simpa using hne

/-! ### Between replays -/

/-- Nothing was replayed yet. -/
theorem accords_inMemory (disk : FileTree) (contextId : String) (log : List Message) :
    Accords [] 0 [] { contextId := contextId, log := log } (inMemory disk) where
  memory := rfl
  keyed := (orderly_empty .memory disk).keyed
  numbered := (orderly_empty .memory disk).numbered
  counts := ⟨.refl _, rfl⟩
  scopes := .refl _
  tests := rfl
  executables := .inl rfl
  fixtures := ⟨List.nodup_nil, List.forall_mem_nil _⟩
  running := List.nil_subset _

/-- A session with nothing open can be replayed after one that holds no scope and no test. -/
theorem Accords.next (ha : Accords lost extra done s b) (hscopes : s.scopes = [])
    (hc : s.currentTest = none) {t : Session} (ht : t.isSettled = true) :
    Accords lost extra done t b := by
  simp only [Session.isSettled, Bool.and_eq_true, List.isEmpty_iff, Option.isNone_iff_eq_none]
    at ht
  -- a settled session holds nothing open, as the one before does
  obtain ⟨⟨⟨⟨hscopes', hexecutables'⟩, hfixtures'⟩, hc'⟩, -⟩ := ht
  refine ⟨ha.memory, ha.keyed, ha.numbered, ha.counts, ?_, ?_, .inl hexecutables', ?_, ?_⟩
  · rw [hscopes', ← hscopes]
    exact ha.scopes
  · rw [hc', ← hc]
    exact ha.tests
  · rw [hfixtures']
    exact ⟨List.nodup_nil, List.forall_mem_nil _⟩
  · rw [hfixtures']
    exact List.nil_subset _

end Backend

end Chronicle
