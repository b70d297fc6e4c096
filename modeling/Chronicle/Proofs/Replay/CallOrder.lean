import Chronicle.Proofs.Replay.Hooks
import Chronicle.Proofs.Replay.Tally
import Chronicle.Proofs.Report.CallOrder
import Chronicle.Proofs.Report.Fixtures
import Chronicle.Proofs.Report.Interruption
import Chronicle.Proofs.Report.Saving

/-!
# The order of the calls of a replay

A replay finalizes the open test before it opens anything but a fixture, and before some fixtures as
well, so its calls are in order: `Machine.inOrder_of_replay`. This is shown with a monitor that
follows the calls. `Standing.Watched` says that it knows what the replay holds open; each message is
taken apart into the moves that keep this up.
-/
namespace Chronicle

namespace Standing

variable {isAfterAll : String → Bool} {st st' : Standing} {m : Monitor}

/-- A monitor has followed the calls of a standing. It knows what is open, and what it knows of
tests and fixtures is found in the report. -/
structure Watched (isAfterAll : String → Bool) (st : Standing) (m : Monitor) : Prop where
  follows : Monitor.Follows st.calls m
  scopes : m.scopes = st.scopes.map (·.handle)
  current : m.current.map (·.test) = st.current.map (·.handle)
  /-- As long as the own scope of the open test has not been written, it is the innermost one. -/
  own : ∀ l, m.current = some l → l.written = false →
    ∃ s rest, st.scopes = s :: rest ∧ s.handle = l.own ∧ s.children = [l.test]
  lodged : ∀ e ∈ m.lodged, (∃ s ∈ st.writtenScopes, s.handle = e.1 ∧ s.children = [e.2])
    ∨ m.current = some ⟨e.2, e.1, false⟩
  fixtures : ∀ e ∈ m.fixtures, e.1.IsBefore st.drawn
    ∧ ∃ r, st.fixtures.get? e.1 = some r ∧ (isAfterAll r.name = true → e.2 = false)
  started : handlesOf .startTest st.calls
    = st.writtenTests.map (·.handle) ++ (st.current.map (·.handle)).toList
  written : handlesOf .writeScope st.calls = st.writtenScopes.map (·.handle)

/-- At the start the monitor has seen nothing, and nothing is open. -/
private theorem watched_initial (b : Backend) : (initial b).Watched isAfterAll {} :=
  ⟨.nil, rfl, rfl, nofun, nofun, nofun, rfl, rfl⟩

namespace Watched

/-- Without a test the monitor knows of none. -/
private theorem current_eq_none (h : st.Watched isAfterAll m) (hc : st.current = none) :
    m.current = none := by
  have hcurrent := h.current
  rw [hc] at hcurrent
  exact Option.map_eq_none_iff.1 hcurrent

/-- With a test the monitor knows which. -/
private theorem current_eq_some (h : st.Watched isAfterAll m) {c : Current}
    (hc : st.current = some c) :
    ∃ l, m.current = some l ∧ l.test = c.handle := by
  have hcurrent := h.current
  rw [hc] at hcurrent
  exact Option.map_eq_some_iff.1 hcurrent

/-- Before a scope is opened, all tests are in scopes that have been written. -/
private theorem lodged_of_current (h : st.Watched isAfterAll m) (hc : st.current = none) :
    ∀ e ∈ m.lodged, ∃ s ∈ st.writtenScopes, s.handle = e.1 ∧ s.children = [e.2] := by
  intro e he
  refine (h.lodged e he).resolve_right fun hcurrent => ?_
  rw [h.current_eq_none hc] at hcurrent
  cases hcurrent

/-! ### Scopes and tests -/

/-- A scope may be opened when there is no test. -/
theorem openScope (h : st.Watched isAfterAll m) (hc : st.current = none) :
    st.openScope.Watched isAfterAll
      { m with scopes := st.next :: m.scopes, fresh := some st.next } where
  follows := h.follows.snoc (.startScope st.next (h.current_eq_none hc))
  scopes := congrArg (st.next :: ·) h.scopes
  current := h.current
  own := by
    intro l hl
    rw [h.current_eq_none hc] at hl
    cases hl
  lodged := fun e he => .inl (h.lodged_of_current hc e he)
  fixtures := fun e he => (h.fixtures e he).imp_left (·.mono (Nat.le_succ _))
  started := by simp [Standing.openScope, handlesOf_snoc, h.started]
  written := by simp [Standing.openScope, handlesOf_snoc, h.written]

/-- A test begins in a scope that has just been opened. -/
theorem beginTest (h : st.Watched isAfterAll m) (hc : st.current = none) {s : Scope}
    {rest : List Scope} (hs : st.scopes = s :: rest) (hfresh : m.fresh = some s.handle)
    (hempty : s.children = []) (name : String) (start : Int) :
    (st.beginTest name start).Watched isAfterAll { m with
      fresh := none
      current := some ⟨st.next, s.handle, false⟩
      lodged := m.lodged ++ [(s.handle, st.next)] } where
  follows := h.follows.snoc (.startTest st.next hfresh (h.current_eq_none hc))
  scopes := by simp [h.scopes, Standing.beginTest, Function.comp_def]
  current := rfl
  -- its own scope is the innermost one and has nothing in it yet
  own := by
    rintro _ ⟨⟩ -
    refine ⟨s.addChild st.next, rest.map (·.addChild st.next), ?_, rfl, ?_⟩
    · simp [Standing.beginTest, hs]
    · simp [Scope.addChild, hempty]
  lodged := by
    intro e he
    rcases List.mem_append.1 he with he | he
    · exact .inl (h.lodged_of_current hc e he)
    -- the new test is lodged in the scope that was just opened
    · rw [List.mem_singleton.1 he]
      exact .inr rfl
  fixtures := fun e he => (h.fixtures e he).imp_left (·.mono (Nat.le_succ _))
  started := by simp [Standing.beginTest, handlesOf_snoc, h.started, hc, Current.handle]
  written := by simp [Standing.beginTest, handlesOf_snoc, h.written]

/-- After a scope has been closed, the own scope of the open test has been written. -/
theorem closeScope (h : st.Watched isAfterAll m) :
    ∃ m', st.closeScope.Watched isAfterAll m' ∧ ∀ l, m'.current = some l → l.written = true := by
  cases hs : st.scopes with
  | nil =>
    -- with no scope open, an unwritten test would have none of its own
    refine ⟨m, by simpa only [Standing.closeScope, hs], fun l hl => ?_⟩
    by_contra hwritten
    obtain ⟨s, rest, hopen, -⟩ := h.own l hl (Bool.eq_false_iff.2 hwritten)
    rw [hs] at hopen
    cases hopen
  | cons s rest =>
    have hscopes := h.scopes
    rw [hs, List.map_cons] at hscopes
    -- the innermost scope is the own one of a test that is not written, so it is written now
    have hwritten : ∀ l, m.current.map (·.scopeWritten s.handle) = some l → l.written = true := by
      intro l hl
      obtain ⟨l', hl', rfl⟩ := Option.map_eq_some_iff.1 hl
      cases hleft : l'.written with
      | true => simp [Lodging.scopeWritten, hleft]
      | false =>
        obtain ⟨s', rest', hopen, hown, -⟩ := h.own l' hl' hleft
        rw [hs] at hopen
        cases hopen
        simp [Lodging.scopeWritten, hown]
    refine ⟨{ m with
      scopes := rest.map (·.handle)
      fresh := none
      current := m.current.map (·.scopeWritten s.handle) }, ?_, hwritten⟩
    simp only [Standing.closeScope, hs]
    refine ⟨h.follows.snoc (.writeScope hscopes), rfl, ?_, ?_, ?_, h.fixtures, ?_, ?_⟩
    · rw [← h.current, Option.map_map]
      rfl
    -- no test is left whose scope is open
    · intro l hl hleft
      rw [hwritten l hl] at hleft
      cases hleft
    -- the scopes that are open stay so, except for the innermost one
    · intro e he
      refine .inl ?_
      rcases h.lodged e he with ⟨s', hs', hown⟩ | hcurrent
      · exact ⟨s', List.mem_append_left _ hs', hown⟩
      · -- the scope is the own one of the open test
        obtain ⟨s', rest', hopen, hown⟩ := h.own _ hcurrent rfl
        rw [hs] at hopen
        cases hopen
        exact ⟨s, List.mem_append_right _ (List.mem_singleton_self s), hown⟩
    · simp [handlesOf_snoc, h.started]
    · simp [handlesOf_snoc, h.written]

/-- A test may be written once its scope has been. -/
theorem writeTest (h : st.Watched isAfterAll m)
    (hwritten : ∀ l, m.current = some l → l.written = true) :
    ∃ m', st.writeTest.Watched isAfterAll m' := by
  cases hc : st.current with
  | none => exact ⟨m, by simpa only [Standing.writeTest, hc]⟩
  | some c =>
    -- the monitor holds the same test
    obtain ⟨l, hl, htest⟩ := h.current_eq_some hc
    refine ⟨{ m with fresh := none, current := none }, ?_⟩
    simp only [Standing.writeTest, hc, ← htest]
    refine ⟨h.follows.snoc (.writeTest hl (hwritten l hl)), h.scopes, rfl, ?_, ?_, h.fixtures, ?_,
      ?_⟩
    -- no test is left
    · intro l' hl'
      cases hl'
    -- a test that has been lodged is written, and so not the current one
    · intro e he
      refine .inl ((h.lodged e he).resolve_right fun hcurrent => ?_)
      cases hwritten _ hcurrent
    · simp [handlesOf_snoc, h.started, hc, OpenTest.handle_snapshot, Current.handle]
    · simp [handlesOf_snoc, h.written]

/-- The finalization of a test writes its scope and then the test. -/
theorem finalize (h : st.Watched isAfterAll m) : ∃ m', st.finalize.Watched isAfterAll m' := by
  cases hc : st.current with
  | none => exact ⟨m, by simpa only [Standing.finalize, hc]⟩
  | some c =>
    obtain ⟨m', h', hwritten⟩ := h.closeScope
    simp only [Standing.finalize, hc]
    exact h'.writeTest hwritten

/-! ### What is done with a test or a fixture -/

/-- A call that opens and closes nothing changes nothing that a monitor knows. -/
theorem use (h : st.Watched isAfterAll m)
    (hcalls : st'.calls = st.calls
      ∨ ∃ op x, op.isUse = true ∧ st'.calls = st.calls ++ [(op, x)])
    (hscopes : st'.scopes = st.scopes)
    (hcurrent : st'.current.map (·.handle) = st.current.map (·.handle))
    (htests : st'.writtenTests = st.writtenTests) (hwritten : st'.writtenScopes = st.writtenScopes)
    (hdrawn : st.drawn ≤ st'.drawn)
    (hfixtures : ∀ x r, st.fixtures.get? x = some r →
      ∃ r', st'.fixtures.get? x = some r' ∧ r'.name = r.name) :
    ∃ m', st'.Watched isAfterAll m' := by
  have hlate : ∀ e ∈ m.fixtures, e.1.IsBefore st'.drawn
      ∧ ∃ r, st'.fixtures.get? e.1 = some r ∧ (isAfterAll r.name = true → e.2 = false) := by
    intro e he
    obtain ⟨hbefore, r, hr, hname⟩ := h.fixtures e he
    obtain ⟨r', hr', heq⟩ := hfixtures e.1 r hr
    exact ⟨hbefore.mono hdrawn, r', hr', heq ▸ hname⟩
  -- such a step makes one call, or none at all
  rcases hcalls with heq | ⟨op, x, hop, heq⟩
  · refine ⟨m, heq ▸ h.follows, hscopes ▸ h.scopes, h.current.trans hcurrent.symm,
      hscopes ▸ h.own, hwritten ▸ h.lodged, hlate, ?_, ?_⟩
    · rw [heq, htests, hcurrent, h.started]
    · rw [heq, hwritten, h.written]
  · have hsame : ∀ op', op'.isUse = false → handlesOf op' st'.calls = handlesOf op' st.calls := by
      intro op' hop'
      -- what uses something is no call that opens or writes
      have hne : op ≠ op' := by
        rintro rfl
        rw [hop] at hop'
        cases hop'
      rw [heq, handlesOf_snoc, if_neg hne, List.append_nil]
    refine ⟨{ m with fresh := none }, heq ▸ h.follows.snoc (.use hop x), hscopes ▸ h.scopes,
      h.current.trans hcurrent.symm, hscopes ▸ h.own, hwritten ▸ h.lodged, hlate, ?_, ?_⟩
    · rw [hsame _ rfl, htests, hcurrent, h.started]
    · rw [hsame _ rfl, hwritten, h.written]

/-- The current test may be changed at any time. -/
theorem changeTest (h : st.Watched isAfterAll m) {op : Operation} (hop : op.isUse = true)
    {f : OpenTest → OpenTest} (hf : OpenTest.KeepsHandle f) :
    ∃ m', (st.changeTest op f).Watched isAfterAll m' := by
  cases hc : st.current with
  | none => exact ⟨m, by simpa only [Standing.changeTest, hc]⟩
  | some c =>
    simp only [Standing.changeTest, hc]
    refine h.use (.inr ⟨op, c.handle, hop, rfl⟩) rfl ?_ rfl rfl (Nat.le_refl _)
      fun x r hr => ⟨r, hr, rfl⟩
    simp [hc, Current.handle, hf c.test]

/-- A file may be attached to it. -/
theorem attach (h : st.Watched isAfterAll m) (file : Attachment) :
    ∃ m', (st.attach file).Watched isAfterAll m' := by
  cases hc : st.current with
  | none => exact ⟨m, by simpa only [Standing.attach, hc]⟩
  | some c =>
    simp only [Standing.attach, hc]
    refine h.use (.inr ⟨_, c.handle, rfl, rfl⟩) rfl ?_ rfl rfl
      (Nat.le_succ _) fun x r hr => ⟨r, hr, rfl⟩
    simp [hc, Current.handle, OpenTest.keepsHandle_attach _ c.test]

/-- It may be stopped. -/
theorem stopTest (h : st.Watched isAfterAll m) (stop duration : Option Int) :
    ∃ m', (st.stopTest stop duration).Watched isAfterAll m' := by
  cases hc : st.current with
  | none => exact ⟨m, by simpa only [Standing.stopTest, hc]⟩
  | some c =>
    simp only [Standing.stopTest, hc]
    refine h.use (.inr ⟨_, c.handle, rfl, rfl⟩) rfl ?_ rfl rfl
      (Nat.le_refl _) fun x r hr => ⟨r, hr, rfl⟩
    simp only [hc]
    rfl

/-- No fixture but one that runs is changed, and that one keeps its name. -/
private theorem exists_get?_change {f : FixtureResult → FixtureResult}
    (hf : ∀ r, (f r).name = r.name) (fixtures : Table FixtureResult) (running x : Handle)
    (r : FixtureResult) (hr : fixtures.get? x = some r) :
    ∃ r', (fixtures.change running f).get? x = some r' ∧ r'.name = r.name := by
  by_cases heq : x = running
  · subst heq
    exact ⟨f r, Table.get?_change_self hr f, hf r⟩
  · exact ⟨r, (Table.get?_change_of_ne heq f).trans hr, rfl⟩

/-- A fixture may be changed, but not renamed. -/
theorem updateFixture (h : st.Watched isAfterAll m) {f : FixtureResult → FixtureResult}
    (hf : ∀ r, (f r).name = r.name) : ∃ m', (st.updateFixture f).Watched isAfterAll m' := by
  cases hr : st.running with
  | nil => exact ⟨m, by simpa only [Standing.updateFixture, hr]⟩
  | cons x rest =>
    simp only [Standing.updateFixture, hr]
    exact h.use (.inr ⟨_, x, rfl, rfl⟩) rfl rfl rfl rfl (Nat.le_refl _)
      (exists_get?_change hf _ x)

/-- It may be stopped. -/
theorem stopFixture (h : st.Watched isAfterAll m) (stop duration : Option Int) :
    ∃ m', (st.stopFixture stop duration).Watched isAfterAll m' := by
  cases hr : st.running with
  | nil => exact ⟨m, by simpa only [Standing.stopFixture, hr]⟩
  | cons x rest =>
    simp only [Standing.stopFixture, hr]
    exact h.use (.inr ⟨_, x, rfl, rfl⟩) rfl rfl rfl rfl (Nat.le_refl _)
      (exists_get?_change (f := (·.stopped stop duration)) (fun _ => rfl) _ x)

/-- A fixture starts under a name for which no test is open. -/
theorem startFixture (h : st.Watched isAfterAll m) (kind : HookKind) {name : String}
    (hname : isAfterAll name = true → st.current = none) (start : Int) :
    ∃ m', (st.startFixture kind name start).Watched isAfterAll m' := by
  cases hs : st.scopes with
  -- with no scope open no fixture is started
  | nil => exact ⟨m, by simpa only [Standing.startFixture, hs]⟩
  | cons s rest =>
    refine ⟨{ m with
      fresh := none
      fixtures := m.fixtures ++ [(st.next, m.current.isSome)] }, ?_⟩
    simp only [Standing.startFixture, hs]
    refine ⟨h.follows.snoc (.startFixture st.next), ?_, h.current, ?_, h.lodged, ?_, ?_, ?_⟩
    · simp [h.scopes, hs]
    -- the own scope of the open test is still the innermost one
    · intro l hl hleft
      obtain ⟨s', rest', hopen, hown, hchildren⟩ := h.own l hl hleft
      rw [hs] at hopen
      cases hopen
      refine ⟨_, _, rfl, (handle_addFixture s kind _).trans hown, ?_⟩
      -- a fixture is listed before or after the children, and is none of them
      cases kind <;> exact hchildren
    · intro e he
      rcases List.mem_append.1 he with he | he
      · obtain ⟨hbefore, r, hr, hlate⟩ := h.fixtures e he
        exact ⟨hbefore.mono (Nat.le_succ _), r,
          (Table.get?_insert_of_ne hbefore.ne_drawn _).trans hr, hlate⟩
      -- the new fixture has the handle just drawn, and runs late only when no test is open
      · rw [List.mem_singleton.1 he]
        refine ⟨⟨st.drawn, Nat.lt_succ_self _, rfl⟩, _, Table.get?_cons_self .., fun hlate => ?_⟩
        rw [h.current_eq_none (hname hlate)]
        rfl
    · simp [handlesOf_snoc, h.started]
    · simp [handlesOf_snoc, h.written]

/-! ### Messages -/

/-- Steps may be closed at any time, by induction on their number. -/
theorem closeSteps (h : st.Watched isAfterAll m) (status : Status) (stop : Int) (n : Nat) :
    ∃ m', (st.closeSteps status stop n).Watched isAfterAll m' := by
  induction n generalizing st m with
  | zero => exact ⟨m, h⟩
  | succ n ih =>
    have hop : Operation.isUse .applyMessages = true := rfl
    obtain ⟨m', h'⟩ := h.changeTest hop (OpenTest.keepsHandle_closeStep status stop none)
    exact ih h'

/-- The current test may end at any time. -/
theorem endTest (h : st.Watched isAfterAll m) (e : TestEnding) :
    ∃ m', (st.endTest e).Watched isAfterAll m' := by
  by_cases hunended : st.unended = []
  · exact ⟨m, by rwa [endTest_of_unended hunended]⟩
  · obtain ⟨t, hc⟩ := current_of_unended hunended
    simp only [Standing.endTest, hc]
    obtain ⟨m₁, hclosed⟩ := h.closeSteps e.status e.stop t.openSteps.length
    have hop : Operation.isUse .updateTest = true := rfl
    obtain ⟨m₂, hupdated⟩ := hclosed.changeTest hop
      (OpenTest.keepsHandle_update (f := (·.ended e)) fun _ => rfl)
    exact hupdated.stopTest (some e.stop) e.duration

/-- An entry may come at any time. -/
theorem applyEntry (h : st.Watched isAfterAll m) (e : TestEntry) :
    ∃ m', (st.applyEntry e).Watched isAfterAll m' := by
  cases e with
  | stepStart name start => exact h.changeTest rfl (OpenTest.keepsHandle_openStep name start)
  | stepStop status stop details =>
    exact h.changeTest rfl (OpenTest.keepsHandle_closeStep status stop details)
  | metadata labels parameters =>
    exact h.changeTest rfl (OpenTest.keepsHandle_describe labels parameters)
  | attachment file => exact h.attach file

/-- The current test may be named at any time. -/
theorem nameTest (h : st.Watched isAfterAll m) (fullName : String) :
    ∃ m', (st.nameTest fullName).Watched isAfterAll m' := by
  simp only [Standing.nameTest]
  split
  · exact h.changeTest rfl (OpenTest.keepsHandle_update fun _ => rfl)
  · exact ⟨m, h⟩

/-- Each message is a few moves, and after each of them the monitor still follows. -/
theorem step (h : st.Watched isAfterAll m) (message : Message) :
    ∃ m', (st.step isAfterAll message).Watched isAfterAll m' := by
  cases message with
  -- a start finalizes the test that is open before it opens a scope
  | suiteStart name isFeature =>
    obtain ⟨m', h'⟩ := h.finalize
    exact ⟨_, h'.openScope (current_finalize st)⟩
  | suiteEnd =>
    obtain ⟨m', h', -⟩ := h.closeScope
    exact ⟨m', h'⟩
  | testStart name start =>
    obtain ⟨m', h'⟩ := h.finalize
    have hopen := h'.openScope (current_finalize st)
    exact ⟨_, hopen.beginTest (current_finalize st) rfl rfl rfl name start⟩
  | testInfo fullName => exact h.nameTest fullName
  | testEnd e => exact h.endTest e
  | hookStart name kind start =>
    -- only a hook with such a name finalizes the test first
    cases hname : isAfterAll name with
    | false =>
      rw [step_hookStart hname]
      exact h.startFixture kind (by simp [hname]) start
    | true =>
      rw [step_hookStart_of_isAfterAll hname]
      obtain ⟨m', h'⟩ := h.finalize
      exact h'.startFixture kind (fun _ => current_finalize st) start
  -- the end is an update and then a stop
  | hookEnd e =>
    obtain ⟨m', h'⟩ := h.updateFixture (f := (·.ended e)) fun _ => rfl
    exact h'.stopFixture (some e.stop) e.duration
  | entry e => exact h.applyEntry e

/-- The monitor follows a message and the finalizations it brings about. -/
theorem dispatch (h : st.Watched isAfterAll m) (isLast : Bool) (message : Message) :
    ∃ m', (st.dispatch isAfterAll isLast message).Watched isAfterAll m' := by
  obtain ⟨m', h'⟩ := h.step message
  simp only [Standing.dispatch]
  split
  · exact h'.finalize
  · exact ⟨m', h'⟩

/-- The monitor follows a whole log, by induction on the log. -/
theorem dispatchAll (h : st.Watched isAfterAll m) (log : List Message) :
    ∃ m', (st.dispatchAll isAfterAll log).Watched isAfterAll m' := by
  induction log generalizing st m with
  | nil => exact ⟨m, h⟩
  | cons message rest ih =>
    obtain ⟨m', h'⟩ := h.dispatch rest.isEmpty message
    exact ih h'

/-- The monitor follows as the fixtures left running are stopped. -/
theorem stopFixtures (h : st.Watched isAfterAll m) (fixtures : List Handle) :
    ∃ m', (st.stopFixtures fixtures).Watched isAfterAll m' := by
  induction fixtures generalizing st m with
  | nil => exact ⟨m, h⟩
  | cons x rest ih =>
    obtain ⟨m', h'⟩ := h.stopFixture none none
    exact ih h'

/-- The monitor follows as the scopes left open are closed. -/
theorem closeScopes (h : st.Watched isAfterAll m) (scopes : List Scope) :
    ∃ m', (st.closeScopes scopes).Watched isAfterAll m' := by
  induction scopes generalizing st m with
  | nil => exact ⟨m, h⟩
  | cons s rest ih =>
    obtain ⟨m', h', -⟩ := h.closeScope
    exact ih h'

/-- The monitor follows to the end of a replay. -/
theorem settle (h : st.Watched isAfterAll m) : ∃ m', st.settle.Watched isAfterAll m' := by
  obtain ⟨m₁, hstopped⟩ := h.stopFixtures st.running
  obtain ⟨m₂, hfinalized⟩ := hstopped.finalize
  exact hfinalized.closeScopes _

/-- Where nothing is open, the calls are in order. -/
theorem inOrder (h : st.Watched isAfterAll m) (hheld : st.held = []) :
    InOrder isAfterAll st.writtenTests st.writtenScopes st.fixtures st.calls := by
  simp only [held, List.append_eq_nil_iff, List.map_eq_nil_iff, Option.toList_eq_nil_iff] at hheld
  obtain ⟨hscopes, hcurrent, -⟩ := hheld
  refine h.follows.inOrder ?_ (h.current_eq_none hcurrent) ?_ h.written
    (h.lodged_of_current hcurrent) ?_
  · rw [h.scopes, hscopes, List.map_nil]
  · simpa [hcurrent] using h.started
  · exact fun e he => (h.fixtures e he).2

end Watched

/-- The calls of a standing are in order from its start to the end of its log. -/
private theorem inOrder_replay (b : Backend) (isAfterAll : String → Bool) (log : List Message) :
    InOrder isAfterAll ((initial b).replay isAfterAll log).writtenTests
      ((initial b).replay isAfterAll log).writtenScopes
      ((initial b).replay isAfterAll log).fixtures ((initial b).replay isAfterAll log).calls := by
  obtain ⟨m, hdispatched⟩ := (watched_initial b).dispatchAll log
  obtain ⟨m', hsettled⟩ := hdispatched.settle
  exact hsettled.inOrder (held_settle _)

end Standing

namespace Machine

/-- A replay of any log, into a report in which nothing is open, makes calls that are in order. They
start one test for each message that does so, and one scope for each suite and each test. If a file
cannot be written, the replay ends early, and has made the first ones of such calls. -/
theorem inOrder_of_replay {b : Backend} (hb : b.forget.Idle) (isAfterAll : String → Bool)
    (synchronised : Bool) (contextId : String) (log : List Message) :
    ∃ tests scopes fixtures calls, InOrder isAfterAll tests scopes fixtures calls
      ∧ tests.map (fun r => (r.name, r.start)) = log.filterMap (·.testStart?)
      ∧ scopes.length = log.countP (·.kind.opensScope)
      ∧ ((∃ p, Runs (Backend.machine isAfterAll synchronised).replay
            ⟨{ contextId := contextId, log := log }, b⟩ () p
          ∧ p.world.writtenTests = b.writtenTests ++ tests
          ∧ p.world.writtenScopes = b.writtenScopes ++ scopes
          ∧ p.world.fixtures = fixtures
          ∧ p.world.calls = b.calls ++ calls)
        ∨ ∃ e p, (Backend.machine isAfterAll synchronised).replay
            ⟨{ contextId := contextId, log := log }, b⟩ = .error e p
          ∧ b.destination ≠ .memory
          ∧ ∃ made, p.world.calls = b.calls ++ made ∧ made <+: calls) := by
  refine ⟨_, _, _, _, Standing.inOrder_replay b.forget isAfterAll log,
    Standing.map_writtenTests_replay b.forget isAfterAll log,
    Standing.length_writtenScopes_replay b.forget isAfterAll log, ?_⟩
  have hscript : Parallel (Backend.machine isAfterAll synchronised)
      (Backend.machine isAfterAll synchronised) (Backend.machine isAfterAll synchronised).replay
      (Backend.machine isAfterAll synchronised).replay := .replay rfl
  -- the same replay in memory succeeds, and this one does the same as long as it goes on
  have hcurtails := hscript.curtails Backend.curtails_call fun _ _ _ => .pure ()
  have hstart : Pass.Related Backend.Alike ⟨{ contextId := contextId, log := log }, b⟩
      ⟨{ contextId := contextId, log := log }, b.forget⟩ := ⟨rfl, rfl⟩
  rcases hcurtails.outcome hstart (runs_replay hb isAfterAll synchronised contextId log) with
    ⟨p, hp, hrel⟩ | ⟨e, p, hp, hwithin⟩
  -- without a failure the two replays differ in what is on the disk only
  · obtain ⟨destination, disk, saved, heq⟩ := hrel.world.exists_eq
    refine .inl ⟨p, hp, ?_⟩
    rw [heq]
    exact ⟨rfl, rfl, rfl, rfl⟩
  -- with a failure the calls made are the first ones of those in memory
  · refine .inr ⟨e, p, hp, fun hdestination => ?_, ?_⟩
    -- in memory no call fails
    · have hidle : b.Idle := ⟨hdestination, hb.scopes, hb.tests, hb.running⟩
      cases hp.symm.trans (runs_replay hidle isAfterAll synchronised contextId log)
    · have hkeeps : Keeps (fun q q' : Pass Backend => q.world.SavesRecords [] q'.world)
          (Backend.machine isAfterAll synchronised).replay := hscript.keeps Backend.keeping_reporter
      obtain ⟨made, hmade⟩ := (hkeeps.error hp).calls
      refine ⟨made, hmade.symm, ?_⟩
      rw [Backend.CallsWithin, ← hmade] at hwithin
      exact (List.prefix_append_right_inj _).1 hwithin

/-- The end of a suite takes the own scope of the first test away, and a hook that runs after all
tests closes the scope around it before the test is written. The last message ends a suite too, with
a test that has not ended. -/
theorem inOrder_of_early_suiteEnd :
    (Backend.inMemory {}).forget.Idle ∧ ∃ p,
      Runs (Backend.machine (· = "teardown") true).replay
        ⟨{ contextId := "main"
           log := [.suiteStart "outer" false, .suiteStart "inner" false, .testStart "a" 1,
             .suiteEnd, .hookStart "teardown" .after 2, .testStart "b" 3, .suiteEnd] },
          .inMemory {}⟩ () p
      ∧ InOrder (· = "teardown") p.world.writtenTests p.world.writtenScopes p.world.fixtures
        p.world.calls
      ∧ p.world.calls = [(.startScope, .drawn 0), (.startScope, .drawn 1),
        (.startScope, .drawn 2), (.startTest, .drawn 3), (.writeScope, .drawn 2),
        (.writeScope, .drawn 1), (.writeTest, .drawn 3), (.startFixture, .drawn 4),
        (.startScope, .drawn 5), (.startTest, .drawn 6), (.writeScope, .drawn 5),
        (.writeScope, .drawn 0), (.writeTest, .drawn 6), (.stopFixture, .drawn 4)] := by
  have hb : (Backend.inMemory {}).forget.Idle := Backend.idle_inMemory {}
  obtain ⟨tests, scopes, fixtures, calls, horder, -, -, hreplay⟩ :=
    inOrder_of_replay (b := .inMemory {}) hb (· = "teardown") true "main"
      [.suiteStart "outer" false, .suiteStart "inner" false, .testStart "a" 1, .suiteEnd,
        .hookStart "teardown" .after 2, .testStart "b" 3, .suiteEnd]
  rcases hreplay with ⟨p, hp, htests, hscopes, hfixtures, hcalls⟩ | ⟨-, -, -, hdestination, -⟩
  · refine ⟨hb, p, hp, ?_, ?_⟩
    · rw [htests, hscopes, hfixtures, hcalls]
      exact horder
    -- the run is known, so its calls can be read off
    · obtain ⟨-, rfl⟩ := hp.unique (runs_replay hb _ _ _ _)
      rfl
  · exact absurd rfl hdestination

end Machine

end Chronicle
