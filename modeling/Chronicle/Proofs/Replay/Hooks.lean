import Chronicle.Proofs.Replay.Addition
import Chronicle.Proofs.Replay.Coupling
import Chronicle.Proofs.Replay.Window
import Chronicle.Proofs.Report.Hooks

/-!
# Hooks of a replay

A hook starts a fixture of the scope that was opened last among those that are open, and ends the
fixture that was started last among those that run. Which ones these are is decided by the calls
that have been made. Nothing else changes a fixture, whether or not its scope has been written:
`Machine.hooks_of_replay`.

`Standing.Attends` says that the stacks of a standing hold what the calls have left open.
-/
namespace Chronicle

/-- Whether an operation opens or closes a scope or a fixture. -/
def Operation.isStacked : Operation → Bool
  | .startScope | .writeScope | .startFixture | .stopFixture => true
  | _ => false

namespace Standing

variable {b : Backend} {st st' : Standing} {isAfterAll : String → Bool}

/-! ### Stacks and calls -/

/-- All calls of a report, those from before the replay among them. -/
def allCalls (b : Backend) (st : Standing) : List (Operation × Handle) :=
  b.calls ++ st.calls

/-- The stacks of a standing hold what the calls have left open, and handles are not used again. -/
structure Attends (b : Backend) (st : Standing) : Prop where
  scopes : unclosed .startScope .writeScope (st.allCalls b) = (st.scopes.map (·.handle)).reverse
  running : unclosed .startFixture .stopFixture (st.allCalls b) = st.running.reverse
  calls : ∀ call ∈ st.allCalls b, call.2.IsBefore st.drawn
  handles : Drawn ((b.writtenScopes ++ st.allScopes).map (·.handle)) st.drawn

/-- A move makes at most one call, with a handle that has been drawn or is drawn by it. -/
theorem Move.isBefore (hm : Move st st') (hs : st.Sound)
    (hcalls : ∀ call ∈ st.allCalls b, call.2.IsBefore st.drawn) :
    ∀ call ∈ st'.allCalls b, call.2.IsBefore st'.drawn := by
  -- what a move calls is new or open, and both have been drawn by then
  have hone : st'.calls = st.calls ∨ ∃ op h, st'.calls = st.calls ++ [(op, h)]
      ∧ h.IsBefore st'.drawn := by
    cases hm.effect with
    | nothing _ heq _ => exact .inl heq
    | opens k _ _ heq hdrawn => exact .inr ⟨_, _, heq, st.drawn, by omega, rfl⟩
    | uses h _ rest hbefore _ heq hle =>
      have hmem : h ∈ st.held := (held_perm hbefore).symm.subset List.mem_cons_self
      exact .inr ⟨_, _, heq, (hs.drawn h hmem).mono hle⟩
    | closes h k hbefore heq hdrawn =>
      have hmem : h ∈ st.held := (held_perm hbefore).symm.subset List.mem_cons_self
      exact .inr ⟨_, _, heq, hdrawn ▸ hs.drawn h hmem⟩
  -- earlier calls stay behind what has been drawn
  have hold : ∀ call ∈ st.allCalls b, call.2.IsBefore st'.drawn := fun call hcall =>
    (hcalls call hcall).mono hm.effect.drawn_le
  rcases hone with heq | ⟨op, h, heq, hh⟩
  · simpa only [allCalls, heq] using hold
  · simp only [allCalls, heq, ← List.append_assoc]
    exact List.forall_mem_append.2 ⟨hold, List.forall_mem_singleton.2 hh⟩

/-- A scope that is closed is still one of all scopes: it has been written. -/
private theorem allScopes_closeScope (st : Standing) : st.closeScope.allScopes = st.allScopes := by
  cases hc : st.scopes <;> simp [closeScope, allScopes, hc]

/-- What is on top of a stack is listed last. -/
private theorem filter_reverse_cons {h : Handle} {hs : List Handle} (hh : h ∉ hs) :
    (h :: hs).reverse.filter (· ≠ h) = hs.reverse := by
  rw [List.reverse_cons, List.filter_append, List.filter_eq_self.2]
  · simp
  · intro x hx
    have hne : x ≠ h := fun heq => hh (heq ▸ List.mem_reverse.1 hx)
    simpa using hne

/-- A move that leaves the stacks alone makes no call that opens or closes something on them. -/
theorem Attends.congr (ha : st.Attends b) (hm : Move st st') (hs : st.Sound)
    (hcalls : st'.calls = st.calls
      ∨ ∃ op h, st'.calls = st.calls ++ [(op, h)] ∧ op.isStacked = false)
    (hscopes : st'.scopes.map (·.handle) = st.scopes.map (·.handle))
    (hwritten : st'.writtenScopes = st.writtenScopes) (hrunning : st'.running = st.running) :
    st'.Attends b := by
  -- the scopes written and open are the same ones
  have hhandles : (b.writtenScopes ++ st'.allScopes).map (·.handle)
      = (b.writtenScopes ++ st.allScopes).map (·.handle) := by
    simp only [allScopes, List.map_append, hwritten, hscopes]
  -- the call does not count on either stack
  have hsame : ∀ opens closes : Operation, opens.isStacked = true → closes.isStacked = true →
      unclosed opens closes (st'.allCalls b) = unclosed opens closes (st.allCalls b) := by
    intro opens closes hopens hcloses
    rcases hcalls with heq | ⟨op, h, heq, hop⟩
    · simp only [allCalls, heq]
    · simp only [allCalls, heq, ← List.append_assoc]
      refine unclosed_snoc_of_ne ?_ ?_ h <;> rintro rfl <;> simp_all
  exact
    { scopes := by rw [hsame _ _ rfl rfl, ha.scopes, hscopes]
      running := by rw [hsame _ _ rfl rfl, ha.running, hrunning]
      calls := hm.isBefore hs ha.calls
      handles := hhandles ▸ ha.handles.mono hm.effect.drawn_le }

/-- A call that concerns neither side of a stack leaves it alone. -/
private theorem unclosed_allCalls {opens closes op : Operation} {h : Handle}
    (hcalls : st'.calls = st.calls ++ [(op, h)]) (hopens : op ≠ opens) (hcloses : op ≠ closes) :
    unclosed opens closes (st'.allCalls b) = unclosed opens closes (st.allCalls b) := by
  rw [allCalls, hcalls, ← List.append_assoc]
  exact unclosed_snoc_of_ne hopens hcloses h

/-- What is opened is put on top of its stack. -/
private theorem Attends.unclosed_opens (ha : st.Attends b) {opens closes : Operation}
    (hne : opens ≠ closes) {stack : List Handle}
    (hstack : unclosed opens closes (st.allCalls b) = stack.reverse)
    (hcalls : st'.calls = st.calls ++ [(opens, st.next)]) :
    unclosed opens closes (st'.allCalls b) = (st.next :: stack).reverse := by
  have hnew : ∀ call ∈ st.allCalls b, call.2 ≠ st.next := fun call hcall =>
    (ha.calls call hcall).ne_drawn
  rw [allCalls, hcalls, ← List.append_assoc, List.reverse_cons, ← hstack]
  exact unclosed_snoc_opens hne hnew

/-- What is closed was on top of its stack. -/
private theorem unclosed_closes {opens closes : Operation} (hne : opens ≠ closes) {h : Handle}
    {stack : List Handle} (hnodup : (h :: stack).Nodup)
    (hstack : unclosed opens closes (st.allCalls b) = (h :: stack).reverse)
    (hcalls : st'.calls = st.calls ++ [(closes, h)]) :
    unclosed opens closes (st'.allCalls b) = stack.reverse := by
  rw [allCalls, hcalls, ← List.append_assoc]
  refine (unclosed_snoc_closes hne h).trans ?_
  rw [show unclosed opens closes (b.calls ++ st.calls) = _ from hstack]
  exact filter_reverse_cons (List.nodup_cons.1 hnodup).1

/-- A new scope is put on top of its stack, and its handle is new. -/
private theorem attends_openScope (hs : st.Sound) (ha : st.Attends b) :
    st.openScope.Attends b where
  scopes := ha.unclosed_opens (by decide) ha.scopes rfl
  running := (unclosed_allCalls rfl (by decide) (by decide)).trans ha.running
  calls := (Move.openScope st).isBefore hs ha.calls
  handles := by
    have hdrawn := ha.handles.snoc
    refine ⟨?_, ?_⟩
    · refine List.Perm.nodup_iff ?_ |>.2 hdrawn.nodup
      -- it stands first among the open ones; moved to the end it is the new handle
      simp only [allScopes, openScope, ← List.append_assoc, List.map_append, List.map_cons]
      exact List.perm_middle.trans (List.perm_append_singleton _ _).symm
    · intro h hh
      refine hdrawn.isBefore h ?_
      simpa [allScopes, openScope, next, or_comm, or_left_comm, or_assoc] using hh

/-- A scope that is closed was on top of its stack. -/
private theorem attends_closeScope (hs : st.Sound) (ha : st.Attends b) :
    st.closeScope.Attends b := by
  cases hc : st.scopes with
  | nil =>
    -- no scope is open, so nothing happens
    simp only [closeScope, hc]
    exact ha
  | cons s rest =>
    have hm := Move.closeScope st
    have hnodup := hs.nodup_scopes
    have hscopes := ha.scopes
    rw [hc, List.map_cons] at hnodup hscopes
    have hclosed : st.closeScope.calls = st.calls ++ [(.writeScope, s.handle)] := by
      simp only [closeScope, hc]
    refine ⟨?_, ?_, hm.isBefore hs ha.calls, ?_⟩
    -- the call closes the innermost scope
    · rw [unclosed_closes (by decide) hnodup hscopes hclosed]
      simp only [closeScope, hc]
    -- and says nothing about fixtures
    · rw [unclosed_allCalls hclosed (by decide) (by decide), ha.running, running_closeScope]
    · rw [allScopes_closeScope]
      exact ha.handles.mono hm.effect.drawn_le

/-- A new fixture is put on top of its stack, and listed by a scope that stays where it is. -/
private theorem attends_startFixture (hs : st.Sound) (ha : st.Attends b) (kind : HookKind)
    (name : String) (start : Int) : (st.startFixture kind name start).Attends b := by
  cases hc : st.scopes with
  | nil =>
    -- no scope is open, so the fixture is declined
    simp only [startFixture, hc]
    exact ha
  | cons s rest =>
    have hm := Move.startFixture st kind name start
    have hstarted : (st.startFixture kind name start).calls
        = st.calls ++ [(.startFixture, st.next)] := by
      simp only [startFixture, hc]
    have hscopes : (st.startFixture kind name start).scopes.map (·.handle)
        = st.scopes.map (·.handle) := by
      simp [startFixture, hc]
    have hwritten : (st.startFixture kind name start).writtenScopes = st.writtenScopes := by
      simp only [startFixture, hc]
    refine ⟨?_, ?_, hm.isBefore hs ha.calls, ?_⟩
    -- the call says nothing about scopes
    · rw [unclosed_allCalls hstarted (by decide) (by decide), ha.scopes, hscopes]
    -- the fixture it opens is the last one
    · rw [ha.unclosed_opens (by decide) ha.running hstarted]
      simp only [startFixture, hc]
    · have hhandles := ha.handles.mono hm.effect.drawn_le
      simp only [allScopes, List.map_append, hscopes, hwritten] at hhandles ⊢
      exact hhandles

/-- A fixture that stops was on top of its stack. -/
private theorem attends_stopFixture (hs : st.Sound) (ha : st.Attends b)
    (stop duration : Option Int) : (st.stopFixture stop duration).Attends b := by
  cases hc : st.running with
  | nil =>
    -- no fixture runs, so nothing happens
    simp only [stopFixture, hc]
    exact ha
  | cons h rest =>
    have hm := Move.stopFixture st stop duration
    have hnodup := hs.nodup_running
    have hrunning := ha.running
    rw [hc] at hnodup hrunning
    have hstopped : (st.stopFixture stop duration).calls = st.calls ++ [(.stopFixture, h)] := by
      simp only [stopFixture, hc]
    refine ⟨?_, ?_, hm.isBefore hs ha.calls, ?_⟩
    -- the call says nothing about scopes
    · rw [unclosed_allCalls hstopped (by decide) (by decide), ha.scopes]
      simp only [stopFixture, hc]
    -- and closes the fixture on top
    · rw [unclosed_closes (by decide) hnodup hrunning hstopped]
      simp only [stopFixture, hc]
    · have hhandles := ha.handles.mono hm.effect.drawn_le
      simp only [allScopes, stopFixture, hc] at hhandles ⊢
      exact hhandles

/-- Every move keeps the stacks of scopes and fixtures as the calls have them. -/
private theorem Move.attends (hm : Move st st') (hs : st.Sound) (ha : st.Attends b) :
    st'.Attends b := by
  have hmoved := hm
  cases hm with
  -- a move on scopes or fixtures is a call on one of the stacks
  | openScope => exact attends_openScope hs ha
  | closeScope => exact attends_closeScope hs ha
  -- a child is added, which leaves the handles of the scopes
  | beginTest name start hc =>
    refine ha.congr hmoved hs (.inr ⟨_, _, rfl, rfl⟩) ?_ rfl rfl
    simp [Standing.beginTest, Function.comp_def]
  -- what happens to tests and in fixtures leaves both stacks alone
  | changeTest hop hf =>
    refine ha.congr hmoved hs ?_ ?_ ?_ ?_ <;> cases hc : st.current <;>
      rcases hop with rfl | rfl <;> simp [Standing.changeTest, hc, Operation.isStacked]
  | attach file =>
    refine ha.congr hmoved hs ?_ ?_ ?_ ?_ <;> cases hc : st.current <;>
      simp [Standing.attach, hc, Operation.isStacked]
  | stopTest stop duration hc hended =>
    refine ha.congr hmoved hs ?_ ?_ ?_ ?_ <;>
      simp [Standing.stopTest, hc, Operation.isStacked]
  | writeTest =>
    refine ha.congr hmoved hs ?_ ?_ ?_ ?_ <;> cases hc : st.current <;>
      simp [Standing.writeTest, hc, Operation.isStacked]
  | startFixture kind name start => exact attends_startFixture hs ha kind name start
  | updateFixture f =>
    refine ha.congr hmoved hs ?_ ?_ ?_ ?_ <;> cases hc : st.running <;>
      simp [Standing.updateFixture, hc, Operation.isStacked]
  | stopFixture stop duration => exact attends_stopFixture hs ha stop duration

/-- Any number of moves keep the stacks as the calls have them. -/
private theorem Moves.attends (hm : Moves st st') (hs : st.Sound) (ha : st.Attends b) :
    st'.Attends b := by
  induction hm with
  | refl => exact ha
  | tail hmoves hmove ih => exact hmove.attends (Moves.sound hmoves hs) ih

/-! ### What happens to fixtures -/

/-- The fixtures of a scope are looked up in all scopes, written or open, and in one table. -/
private theorem hooks_report (b : Backend) (st : Standing) (scope : Handle) (kind : HookKind) :
    (st.report b).hooks scope kind
      = hooksOf (b.writtenScopes ++ st.allScopes) st.fixtures scope kind := by
  simp only [Backend.hooks, report, allScopes, List.map_map, Function.comp_def, List.map_id',
    List.append_assoc]

/-- No fixture changes. -/
structure SameHooks (b : Backend) (st st' : Standing) : Prop where
  fixtures : st'.fixtures = st.fixtures
  running : st'.running = st.running
  hooks : (st'.report b).hooks = (st.report b).hooks

/-- Nothing that happens leaves the hooks alone. -/
theorem SameHooks.refl (st : Standing) : SameHooks b st st :=
  ⟨rfl, rfl, rfl⟩

/-- Two things that leave the hooks alone leave them alone one after the other. -/
theorem SameHooks.trans {st'' : Standing} (h : SameHooks b st st') (h' : SameHooks b st' st'') :
    SameHooks b st st'' :=
  ⟨h'.fixtures.trans h.fixtures, h'.running.trans h.running, h'.hooks.trans h.hooks⟩

/-- What scopes list is seen in what they are. -/
private theorem SameHooks.of_allScopes (hfixtures : st'.fixtures = st.fixtures)
    (hrunning : st'.running = st.running) (hscopes : st'.allScopes = st.allScopes) :
    SameHooks b st st' := by
  refine ⟨hfixtures, hrunning, ?_⟩
  funext scope kind
  rw [hooks_report, hooks_report, hfixtures, hscopes]

/-- A new scope has no fixtures. -/
private theorem sameHooks_openScope (st : Standing) : SameHooks b st st.openScope := by
  refine ⟨rfl, rfl, ?_⟩
  funext scope kind
  -- the new scope lists nothing yet
  have hempty : (Scope.ofKind ⟨st.next, [], [], []⟩ kind) = [] := by cases kind <;> rfl
  simp [hooks_report, allScopes, openScope, hooksOf_append, hooksOf_cons, hempty]

/-- A scope takes its fixtures along when it is written. -/
private theorem sameHooks_closeScope (st : Standing) : SameHooks b st st.closeScope := by
  refine .of_allScopes ?_ (running_closeScope st) (allScopes_closeScope st)
  cases hc : st.scopes <;> simp [closeScope, hc]

/-- A test becomes a child of scopes, which is not a fixture of them. -/
private theorem sameHooks_beginTest (name : String) (start : Int) (st : Standing) :
    SameHooks b st (st.beginTest name start) := by
  refine ⟨rfl, rfl, ?_⟩
  funext scope kind
  simp [hooks_report, allScopes, beginTest, hooksOf_append, hooksOf_map_addChild]

/-- What happens in a test does not change a fixture. -/
private theorem sameHooks_changeTest (op : Operation) (f : OpenTest → OpenTest) (st : Standing) :
    SameHooks b st (st.changeTest op f) := by
  refine .of_allScopes ?_ ?_ ?_ <;> cases hc : st.current <;> simp [changeTest, allScopes, hc]

/-- An attachment draws a handle, but no fixture gets it. -/
private theorem sameHooks_attach (file : Attachment) (st : Standing) :
    SameHooks b st (st.attach file) := by
  refine .of_allScopes ?_ ?_ ?_ <;> cases hc : st.current <;> simp [attach, allScopes, hc]

/-- A test that stops does not change a fixture. -/
private theorem sameHooks_stopTest (stop duration : Option Int) (st : Standing) :
    SameHooks b st (st.stopTest stop duration) := by
  refine .of_allScopes ?_ ?_ ?_ <;> cases hc : st.current <;> simp [stopTest, allScopes, hc]

/-- A test that is written does not change a fixture. -/
private theorem sameHooks_writeTest (st : Standing) : SameHooks b st st.writeTest := by
  refine .of_allScopes ?_ ?_ ?_ <;> cases hc : st.current <;> simp [writeTest, allScopes, hc]

/-- To finalize a test writes it and closes its scope, and leaves all hooks alone. -/
theorem sameHooks_finalize (st : Standing) : SameHooks b st st.finalize := by
  cases hc : st.current with
  | none =>
    simp only [finalize, hc]
    exact .refl st
  | some c =>
    simp only [finalize, hc]
    exact (sameHooks_closeScope st).trans (sameHooks_writeTest _)

/-- To finalize a test draws no handle. -/
theorem drawn_finalize (st : Standing) : st.finalize.drawn = st.drawn := by
  cases hc : st.current with
  | none => simp only [finalize, hc]
  | some c => cases hs : st.scopes <;> simp [finalize, closeScope, writeTest, hc, hs]

/-- However many scopes are closed, they take their fixtures along. -/
private theorem sameHooks_closeScopes (scopes : List Scope) (st : Standing) :
    SameHooks b st (st.closeScopes scopes) := by
  induction scopes generalizing st with
  | nil => exact .refl st
  | cons s rest ih => exact (sameHooks_closeScope st).trans (ih _)

/-- However many steps are closed, no fixture changes. -/
private theorem sameHooks_closeSteps (status : Status) (stop : Int) (n : Nat) (st : Standing) :
    SameHooks b st (st.closeSteps status stop n) := by
  induction n generalizing st with
  | zero => exact .refl st
  | succ n ih => exact (sameHooks_changeTest _ _ st).trans (ih _)

/-- The end of a test closes its steps and records the outcome, and changes no fixture. -/
private theorem sameHooks_endTest (e : TestEnding) (st : Standing) :
    SameHooks b st (st.endTest e) := by
  rcases hc : st.current with _ | ⟨t, _ | _⟩
  · simp only [endTest, hc]
    exact .refl st
  · simp only [endTest, hc]
    exact ((sameHooks_closeSteps _ _ _ st).trans (sameHooks_changeTest _ _ _)).trans
      (sameHooks_stopTest _ _ _)
  · simp only [endTest, hc]
    exact .refl st

/-- An entry of a test does not change a fixture. -/
private theorem sameHooks_applyEntry (e : TestEntry) (st : Standing) :
    SameHooks b st (st.applyEntry e) := by
  cases e with
  | stepStart name start => exact sameHooks_changeTest _ (·.openStep name start) st
  | stepStop status stop details =>
    exact sameHooks_changeTest _ (·.closeStep status stop details) st
  | metadata labels parameters => exact sameHooks_changeTest _ (·.describe labels parameters) st
  | attachment file => exact sameHooks_attach file st

/-- The messages that are not about hooks change no fixture. -/
theorem sameHooks_step {m : Message} (hstart : m.kind ≠ .hookStart) (hend : m.kind ≠ .hookEnd)
    (st : Standing) : SameHooks b st (st.step isAfterAll m) := by
  cases m with
  -- finalizing closes a scope and writes a test, with no fixture touched
  | suiteStart name isFeature => exact (sameHooks_finalize st).trans (sameHooks_openScope _)
  | suiteEnd => exact sameHooks_closeScope st
  | testStart name start =>
    exact ((sameHooks_finalize st).trans (sameHooks_openScope _)).trans (sameHooks_beginTest _ _ _)
  | testInfo fullName =>
    simp only [step, nameTest]
    split
    · exact sameHooks_changeTest _ _ st
    · exact .refl st
  | testEnd e => exact sameHooks_endTest e st
  -- these two are left out
  | hookStart name kind start => exact absurd rfl hstart
  | hookEnd e => exact absurd rfl hend
  | entry e => exact sameHooks_applyEntry e st

/-- What is known of the fixtures of a report while it is made: which of them run and where they are
listed. Those that run are as they started. -/
structure Hooked (b : Backend) (st : Standing) : Prop extends Attends b st where
  sound : st.Sound
  stocked : Stocked st.drawn st.fixtures (b.writtenScopes ++ st.allScopes)
  keyed : ∀ e ∈ st.fixtures, e.2.handle = e.1
  fresh : ∀ scope kind, ∀ r ∈ (st.report b).hooks scope kind, r.handle ∈ st.running →
    r = r.atStart
  listed : ∀ h ∈ st.running, ∃ scope kind, ∃ r ∈ (st.report b).hooks scope kind, r.handle = h

/-- All fixtures that are listed have been drawn. -/
theorem Hooked.isBefore (h : st.Hooked b) {scope : Handle} {kind : HookKind} {r : FixtureResult}
    (hr : r ∈ (st.report b).hooks scope kind) : r.handle.IsBefore st.drawn := by
  rw [hooks_report] at hr
  exact h.stocked.drawn _ (List.mem_map_of_mem (Table.mem_of_get? (get?_of_mem_hooksOf h.keyed hr)))

/-- What leaves the hooks alone keeps all that is known of them. -/
theorem Hooked.same (h : st.Hooked b) (hm : Moves st st') (hs : SameHooks b st st') :
    st'.Hooked b :=
  { hm.attends h.sound h.toAttends with
    sound := hm.sound h.sound
    stocked := hm.stocked h.stocked
    keyed := hs.fixtures ▸ h.keyed
    fresh := by
      rw [hs.hooks, hs.running]
      exact h.fresh
    listed := by
      rw [hs.hooks, hs.running]
      exact h.listed }

/-! ### Hooks that start -/

/-- A started fixture is listed last by the innermost open scope. -/
theorem Hooked.hooks_startFixture (h : st.Hooked b) {s : Scope} {rest : List Scope}
    (hc : st.scopes = s :: rest) (kind : HookKind) (name : String) (start : Int) :
    ((st.startFixture kind name start).report b).hooks
      = addHook s.handle { handle := st.next, name := name, kind := kind, start := start }
        (st.report b).hooks := by
  have hnew : ∀ s' ∈ b.writtenScopes ++ st.allScopes, st.next ∉ s'.fixtures := fun s' hs' hmem =>
    Handle.not_isBefore_drawn st.drawn (h.stocked.drawn _ (h.stocked.listed s' hs' _ hmem))
  have hnodup := h.handles.nodup
  simp only [allScopes, hc, ← List.append_assoc, List.map_append, List.map_cons] at hnew hnodup
  have hlast : s.handle ∉ rest.map (·.handle) :=
    (List.nodup_cons.1 (List.nodup_append.1 hnodup).2.1).1
  funext scope k
  simp only [hooks_report, allScopes, startFixture, hc, addHook, ← List.append_assoc]
  exact hooksOf_addFixture hnew hlast _

/-- A new fixture is at its start, and listed once. -/
theorem Hooked.startFixture (h : st.Hooked b) (kind : HookKind) (name : String) (start : Int) :
    (st.startFixture kind name start).Hooked b := by
  have hm : Moves st (st.startFixture kind name start) := .single (.startFixture st kind name start)
  cases hc : st.scopes with
  | nil =>
    simp only [Standing.startFixture, hc]
    exact h
  | cons s rest =>
    have hhooks := h.hooks_startFixture hc kind name start
    have hrunning : (st.startFixture kind name start).running = st.next :: st.running := by
      simp only [Standing.startFixture, hc]
    have hfixtures : (st.startFixture kind name start).fixtures = st.fixtures.insert st.next
        { handle := st.next, name := name, kind := kind, start := start } := by
      simp only [Standing.startFixture, hc]
    refine
      { hm.attends h.sound h.toAttends with
        sound := hm.sound h.sound
        stocked := hm.stocked h.stocked
        keyed := ?_
        fresh := ?_
        listed := ?_ }
    -- the new record is under its own handle
    · rw [hfixtures]
      exact List.forall_mem_cons.2 ⟨rfl, h.keyed⟩
    · intro scope k r hr hmem
      rw [hhooks] at hr
      rcases List.mem_append.1 hr with hr | hr
      · -- a fixture from before does not have the new handle
        rw [hrunning] at hmem
        exact h.fresh scope k r hr ((List.mem_cons.1 hmem).resolve_left (h.isBefore hr).ne_drawn)
      -- the new fixture is at its start
      · split at hr
        · obtain rfl := List.mem_singleton.1 hr
          rfl
        · cases hr
    · rw [hhooks, hrunning]
      -- the new fixture is listed in the innermost scope, and the older ones where they were
      refine List.forall_mem_cons.2 ⟨⟨s.handle, kind,
        { handle := st.next, name := name, kind := kind, start := start }, ?_, rfl⟩, fun x hx => ?_⟩
      · simp [addHook]
      · obtain ⟨scope, k, r, hr, hhandle⟩ := h.listed x hx
        exact ⟨scope, k, r, List.mem_append_left _ hr, hhandle⟩

/-! ### Hooks that end -/

/-- When the newest fixture that runs ends, its record is changed wherever it is listed. -/
theorem Hooked.change (h : st.Hooked b) (hm : Moves st st') {x : Handle} {rest : List Handle}
    {f g : FixtureResult → FixtureResult} (hrunning : st.running = x :: rest)
    (hrunning' : st'.running = rest) (hfixtures : st'.fixtures = st.fixtures.change x f)
    (hscopes : st'.allScopes = st.allScopes) (hf : ∀ r, (f r).handle = r.handle)
    (hfg : ∀ r : FixtureResult, r = r.atStart → f r = g r) :
    (st'.report b).hooks = changeHook x g (st.report b).hooks ∧ st'.Hooked b := by
  -- the hooks show the change of the table
  have hplain : (st'.report b).hooks = changeHook x f (st.report b).hooks := by
    funext scope kind
    simp only [hooks_report, hfixtures, hscopes, changeHook, hooksOf_change h.keyed]
  have hnodup := h.sound.nodup_running
  rw [hrunning, List.nodup_cons] at hnodup
  refine ⟨hplain.trans ?_, { hm.attends h.sound h.toAttends with
    sound := hm.sound h.sound
    stocked := hm.stocked h.stocked
    keyed := ?_
    fresh := ?_
    listed := ?_ }⟩
  · funext scope kind
    refine List.map_congr_left fun r hr => ?_
    split
    · rename_i hx
      -- a fixture that has run until now is still at its start
      exact hfg r (h.fresh scope kind r hr (by simp [hrunning, hx]))
    · rfl
  · rw [hfixtures]
    intro e he
    obtain ⟨e, hmem, rfl⟩ := List.mem_map.1 he
    split
    -- a record keeps its handle when it is changed
    · exact (hf _).trans (h.keyed e hmem)
    · exact h.keyed e hmem
  · rw [hplain, hrunning']
    intro scope kind r hr hmem
    obtain ⟨r', hr', rfl⟩ := List.mem_map.1 hr
    by_cases hx : r'.handle = x
    · rw [if_pos hx, hf, hx] at hmem
      -- the one that changes runs no longer
      exact absurd hmem hnodup.1
    · rw [if_neg hx] at hmem ⊢
      exact h.fresh scope kind r' hr' (hrunning ▸ List.mem_cons_of_mem x hmem)
  · rw [hplain, hrunning']
    intro y hy
    -- the fixtures that still run are listed where they were
    obtain ⟨scope, kind, r, hr, rfl⟩ := h.listed y (hrunning ▸ List.mem_cons_of_mem x hy)
    refine ⟨scope, kind, _, List.mem_map_of_mem hr, ?_⟩
    split
    · exact hf r
    · rfl

/-- The end of a hook finishes the fixture that was started last. -/
theorem Hooked.endHook (h : st.Hooked b) (e : HookEnding) {x : Handle} {rest : List Handle}
    (hrunning : st.running = x :: rest) :
    ((st.endHook e).report b).hooks = changeHook x (·.finishedBy e) (st.report b).hooks
      ∧ (st.endHook e).Hooked b := by
  have hm : Moves st (st.endHook e) := moves_step (fun _ => false) (.hookEnd e) st
  have hfixtures : (st.endHook e).fixtures
      = st.fixtures.change x fun r => (r.ended e).stopped (some e.stop) e.duration := by
    simp [Standing.endHook, updateFixture, Standing.stopFixture, hrunning, Table.change_change]
  refine h.change hm hrunning ?_ hfixtures ?_ (fun _ => rfl)
    (fun r hr => FixtureResult.stopped_ended hr e) <;>
  simp [Standing.endHook, updateFixture, Standing.stopFixture, hrunning, allScopes]

/-- The end of a hook without a fixture that runs is passed over. -/
theorem endHook_of_running_nil (hrunning : st.running = []) (e : HookEnding) :
    st.endHook e = st := by
  simp only [Standing.endHook, updateFixture, Standing.stopFixture, hrunning]

/-- A fixture that is stopped for want of an end is shown as one without a match. -/
theorem Hooked.stopFixture (h : st.Hooked b) {x : Handle} {rest : List Handle}
    (hrunning : st.running = x :: rest) :
    ((st.stopFixture none none).report b).hooks
        = changeHook x (·.unmatched) (st.report b).hooks
      ∧ (st.stopFixture none none).Hooked b := by
  have hfixtures : (st.stopFixture none none).fixtures
      = st.fixtures.change x (·.stopped none none) := by
    simp only [Standing.stopFixture, hrunning]
  refine h.change (.single (.stopFixture st none none)) hrunning ?_ hfixtures ?_ (fun _ => rfl)
    (fun r hr => FixtureResult.stopped_none hr) <;>
  simp [Standing.stopFixture, hrunning, allScopes]

/-- The fixtures that run are stopped without an outcome. -/
theorem Hooked.stopFixtures {running : List Handle} (h : st.Hooked b)
    (hrunning : st.running = running) :
    (∀ scope kind, ((st.stopFixtures running).report b).hooks scope kind
        = ((st.report b).hooks scope kind).map fun r =>
          if r.handle ∈ running then r.unmatched else r)
      ∧ (st.stopFixtures running).Hooked b := by
  induction running generalizing st with
  | nil => exact ⟨fun scope kind => by simp [Standing.stopFixtures], h⟩
  | cons x rest ih =>
    -- the newest is stopped first, and then the rest
    obtain ⟨hhooks, hstopped⟩ := h.stopFixture hrunning
    have hrest : (st.stopFixture none none).running = rest := by
      simp only [Standing.stopFixture, hrunning]
    obtain ⟨hih, hdone⟩ := ih hstopped hrest
    refine ⟨fun scope kind => ?_, hdone⟩
    rw [show (st.stopFixtures (x :: rest)) = (st.stopFixture none none).stopFixtures rest from rfl,
      hih, hhooks, changeHook, List.map_map]
    refine List.map_congr_left fun r _ => ?_
    have hhandle : r.unmatched.handle = r.handle := rfl
    -- a fixture that is in the list twice would not show it
    have htwice : r.unmatched.unmatched = r.unmatched := rfl
    by_cases hx : r.handle = x
    · simp [hx, hhandle, htwice]
    · simp [hx]

/-! ### Messages and logs -/

/-- Every message keeps what is known of the hooks. -/
theorem Hooked.step (h : st.Hooked b) (m : Message) : (st.step isAfterAll m).Hooked b := by
  have hfinalize : st.finalize.Hooked b := h.same (moves_finalize st) (sameHooks_finalize st)
  -- only the start and the end of a hook do anything to fixtures
  by_cases hstart : m.kind = .hookStart
  · cases m with
    | hookStart name kind start =>
      simp only [Standing.step, startHook]
      split
      · exact hfinalize.startFixture kind name start
      · exact h.startFixture kind name start
    | suiteStart | suiteEnd | testStart | testInfo | testEnd | hookEnd => cases hstart
    | entry e => cases e <;> cases hstart
  by_cases hend : m.kind = .hookEnd
  · cases m with
    | hookEnd e =>
      cases hrunning : st.running with
      -- with no fixture running the end changes nothing
      | nil =>
        rw [Standing.step, endHook_of_running_nil hrunning]
        exact h
      | cons x rest => exact (h.endHook e hrunning).2
    | suiteStart | suiteEnd | testStart | testInfo | testEnd | hookStart => cases hend
    | entry e => cases e <;> cases hend
  · exact h.same (moves_step isAfterAll m st) (sameHooks_step hstart hend st)

/-- A log keeps what is known of the hooks. -/
theorem Hooked.steps (h : st.Hooked b) (isAfterAll : String → Bool) (log : List Message) :
    (st.steps isAfterAll log).Hooked b := by
  induction log generalizing st with
  | nil => exact h
  | cons m rest ih => exact ih (h.step m)

theorem Hooked.dispatch (h : st.Hooked b) (isLast : Bool) (m : Message) :
    (st.dispatch isAfterAll isLast m).Hooked b := by
  simp only [Standing.dispatch]
  split
  · exact (h.step m).same (moves_finalize _) (sameHooks_finalize _)
  · exact h.step m

theorem Hooked.settle (h : st.Hooked b) :
    (∀ scope kind, (st.settle.report b).hooks scope kind
        = ((st.report b).hooks scope kind).map fun r =>
          if r.handle ∈ st.running then r.unmatched else r)
      ∧ st.settle.Hooked b := by
  obtain ⟨hhooks, hstopped⟩ := h.stopFixtures rfl
  have hsame : SameHooks b (st.stopFixtures st.running) st.settle :=
    (sameHooks_finalize _).trans (sameHooks_closeScopes _ _)
  have hm : Moves (st.stopFixtures st.running) st.settle :=
    (moves_finalize _).trans (moves_closeScopes _ _)
  refine ⟨fun scope kind => ?_, hstopped.same hm hsame⟩
  rw [← hhooks, ← hsame.hooks]

/-- What the messages of a log do that come before `rest`. -/
def dispatchUntil (isAfterAll : String → Bool) (rest : List Message) :
    List Message → Standing → Standing
  | [], st => st
  | m :: between, st =>
    dispatchUntil isAfterAll rest between (st.dispatch isAfterAll (between ++ rest).isEmpty m)

theorem dispatchUntil_nil (isAfterAll : String → Bool) (log : List Message) (st : Standing) :
    st.dispatchUntil isAfterAll [] log = st.dispatchAll isAfterAll log := by
  induction log generalizing st with
  | nil => rfl
  | cons m between ih => rw [dispatchUntil, dispatchAll, List.append_nil, ih]

theorem Hooked.dispatchUntil (h : st.Hooked b) (isAfterAll : String → Bool)
    (rest log : List Message) : (st.dispatchUntil isAfterAll rest log).Hooked b := by
  induction log generalizing st with
  | nil => exact h
  | cons m between ih => exact ih (h.dispatch _ m)

theorem Hooked.replay (h : st.Hooked b) (log : List Message) :
    (st.replay isAfterAll log).Hooked b := by
  rw [Standing.replay, ← dispatchUntil_nil]
  exact (h.dispatchUntil isAfterAll [] log).settle.2

/-- The scopes that are open, as the calls have it. -/
private theorem Attends.getLast?_scopes (h : st.Attends b) :
    (unclosed .startScope .writeScope (st.report b).calls).getLast?
      = (st.scopes.map (·.handle)).head? :=
  (congrArg List.getLast? h.scopes).trans List.getLast?_reverse

/-- The fixtures that run, as the calls have it. -/
private theorem Attends.getLast?_running (h : st.Attends b) :
    (unclosed .startFixture .stopFixture (st.report b).calls).getLast? = st.running.head? :=
  (congrArg List.getLast? h.running).trans List.getLast?_reverse

end Standing

/-! ### One replay after another -/

/-- What is known of the fixtures of a report before a replay, when none of them runs. -/
private theorem Standing.hooked_initial {b : Backend}
    (hscopes : unclosed .startScope .writeScope b.calls = [])
    (hrunning : unclosed .startFixture .stopFixture b.calls = [])
    (hcalls : ∀ call ∈ b.calls, call.2.IsBefore b.drawn)
    (hhandles : Drawn (b.writtenScopes.map (·.handle)) b.drawn)
    (hstocked : Stocked b.drawn b.fixtures b.writtenScopes)
    (hkeyed : ∀ e ∈ b.fixtures, e.2.handle = e.1) : (Standing.initial b).Hooked b := by
  have hall : b.writtenScopes ++ (Standing.initial b).allScopes = b.writtenScopes :=
    List.append_nil _
  have hallCalls : (Standing.initial b).allCalls b = b.calls := List.append_nil _
  exact
    { scopes := hallCalls.symm ▸ hscopes
      running := hallCalls.symm ▸ hrunning
      calls := hallCalls.symm ▸ hcalls
      handles := hall.symm ▸ hhandles
      sound := sound_initial b
      stocked := hall.symm ▸ hstocked
      keyed := hkeyed
      fresh := fun _ _ _ _ hmem => absurd hmem List.not_mem_nil
      listed := fun _ hmem => absurd hmem List.not_mem_nil }

/-- What a replay finds out about the fixtures of a report holds for the next replay. -/
theorem Standing.Hooked.initial {b : Backend} {st : Standing} (h : st.Hooked b)
    (hheld : st.held = []) : (Standing.initial (st.report b)).Hooked (st.report b) := by
  simp only [held, List.append_eq_nil_iff, List.map_eq_nil_iff] at hheld
  -- nothing is held, so both stacks are empty
  obtain ⟨hnone, -, hrunning⟩ := hheld
  have hall : (st.report b).writtenScopes = b.writtenScopes ++ st.allScopes := by
    simp only [report, allScopes, hnone, List.append_nil]
  have hcalls : (st.report b).calls = st.allCalls b := rfl
  refine hooked_initial ?_ ?_ (hcalls ▸ h.calls) (hall ▸ h.handles) (hall ▸ h.stocked) h.keyed
  · rw [hcalls, h.scopes, hnone]
    rfl
  · rw [hcalls, h.running, hrunning]
    rfl

/-- Between replays nothing is open, and all that is known of the hooks holds. -/
theorem Backend.BetweenReplays.hooked {b : Backend} (hb : b.BetweenReplays) :
    (Standing.initial b).Hooked b := by
  induction hb with
  | fresh disk =>
    refine Standing.hooked_initial rfl rfl ?_ ⟨.nil, nofun⟩ (Backend.stocked_inMemory disk) ?_ <;>
      exact fun _ hmem => absurd hmem List.not_mem_nil
  | replayed hb h ih =>
    obtain ⟨-, rfl⟩ := h.unique (Machine.runs_replay hb.idle _ _ _ _)
    exact (ih.replay _).initial (Standing.held_settle _)

/-! ### Replays -/

namespace Machine

variable {isAfterAll : String → Bool} {synchronised : Bool} {p : Pass Backend} {b : Backend}
  {st : Standing}

/-- The machine and the standing dispatch the first part of a log alike. -/
theorem runs_dispatchUntil (hm : p.world.destination = .memory) (hs : st.Sound)
    (rest log : List Message) :
    Runs ((Backend.machine isAfterAll synchronised).dispatchUntil rest log) (st.pass p) ()
      ((st.dispatchUntil isAfterAll rest log).pass p) := by
  induction log generalizing st with
  | nil => exact .pure _ _
  | cons m between ih =>
    have hmoves := Standing.moves_dispatch isAfterAll (between ++ rest).isEmpty m st
    exact .bind (runs_dispatch hm hs _ m) (ih (Standing.Moves.sound hmoves hs))

/-- What a message does to the fixtures of a report. A hook that starts adds a fixture to the scope
that was opened last among those that are open, after the open test has been finalized if that is
due. A hook that ends changes the fixture that was started last among those that run. -/
def HookStep (m : Machine Backend ReportError) (p p' : Pass Backend) : Message → Prop
  | .hookStart name kind start => ∃ q,
    Runs (if m.isAfterAll name then m.finalizeTest .afterAllHook else pure ()) p () q
    ∧ q.world.drawn = p.world.drawn
    ∧ q.world.fixtures = p.world.fixtures
    ∧ q.world.hooks = p.world.hooks
    ∧ match (unclosed .startScope .writeScope q.world.calls).getLast? with
      | none => p' = q
      | some scope => p'.world.drawn = q.world.drawn + 1
        ∧ p'.world.hooks = addHook scope
          { handle := .drawn q.world.drawn, name := name, kind := kind, start := start }
          q.world.hooks
  | .hookEnd e =>
    match (unclosed .startFixture .stopFixture p.world.calls).getLast? with
    | none => p' = p
    | some h => (∃ scope kind, ∃ r ∈ p.world.hooks scope kind, r.handle = h)
      ∧ p'.world.drawn = p.world.drawn
      ∧ p'.world.hooks = changeHook h (·.finishedBy e) p.world.hooks
  | _ => p'.world.fixtures = p.world.fixtures ∧ p'.world.hooks = p.world.hooks

/-- The scope that was opened last gets the fixture, as the calls say; without one nothing
happens. -/
private theorem hookStep_startFixture (h : st.Hooked b) (s : Session) (kind : HookKind)
    (name : String) (start : Int) :
    match (unclosed .startScope .writeScope (st.pass ⟨s, b⟩).world.calls).getLast? with
    | none => (st.startFixture kind name start).pass ⟨s, b⟩ = st.pass ⟨s, b⟩
    | some scope =>
      ((st.startFixture kind name start).pass ⟨s, b⟩).world.drawn = (st.pass ⟨s, b⟩).world.drawn + 1
      ∧ ((st.startFixture kind name start).pass ⟨s, b⟩).world.hooks = addHook scope
        { handle := .drawn (st.pass ⟨s, b⟩).world.drawn,
          name := name, kind := kind, start := start }
        (st.pass ⟨s, b⟩).world.hooks := by
  have hlast : (unclosed .startScope .writeScope (st.pass ⟨s, b⟩).world.calls).getLast? = _ :=
    h.getLast?_scopes
  -- the last scope of the calls is the top of the stack
  rw [hlast]
  cases hc : st.scopes with
  -- with no scope the fixture is declined
  | nil => simp only [List.map_nil, List.head?_nil, Standing.startFixture, hc]
  | cons scope rest =>
    simp only [List.map_cons, List.head?_cons]
    refine ⟨?_, h.hooks_startFixture hc kind name start⟩
    simp only [Standing.pass, Standing.report, Standing.startFixture, hc]

/-- The start of a hook after all tests finalizes the test first, and only then starts the
fixture. -/
private theorem hookStep_hookStart (h : st.Hooked b) (hm : b.destination = .memory) (s : Session)
    (name : String) (kind : HookKind) (start : Int) :
    (Backend.machine isAfterAll synchronised).HookStep (st.pass ⟨s, b⟩)
      ((st.startHook isAfterAll name kind start).pass ⟨s, b⟩) (.hookStart name kind start) := by
  cases hname : isAfterAll name with
  -- a hook of any other name finalizes nothing
  | false =>
    refine ⟨st.pass ⟨s, b⟩, ?_, rfl, rfl, rfl, ?_⟩
    · simp only [Backend.machine, hname, Bool.false_eq_true, if_false]
      exact .pure _ _
    · simp only [Standing.startHook, hname, Bool.false_eq_true, if_false]
      exact hookStep_startFixture h s kind name start
  | true =>
    -- what is finalized may close the scope, so the stack is looked at afterwards
    have hsame := Standing.sameHooks_finalize (b := b) st
    have hfinalized := h.same (Standing.moves_finalize st) hsame
    refine ⟨st.finalize.pass ⟨s, b⟩, ?_, Standing.drawn_finalize st, hsame.fixtures, hsame.hooks,
      ?_⟩
    · simp only [Backend.machine, hname, if_true]
      exact runs_finalizeTest hm h.sound .afterAllHook
    · simp only [Standing.startHook, hname, if_true]
      exact hookStep_startFixture hfinalized s kind name start

/-- The fixture that was started last gets the end, as the calls say; without one nothing
happens. -/
private theorem hookStep_hookEnd (h : st.Hooked b) (s : Session) (e : HookEnding) :
    (Backend.machine isAfterAll synchronised).HookStep (st.pass ⟨s, b⟩)
      ((st.endHook e).pass ⟨s, b⟩) (.hookEnd e) := by
  -- the last fixture of the calls is the top of the stack
  have hlast : (unclosed .startFixture .stopFixture (st.pass ⟨s, b⟩).world.calls).getLast?
      = st.running.head? := h.getLast?_running
  simp only [HookStep, hlast]
  cases hrunning : st.running with
  | nil =>
    simp only [List.head?_nil]
    rw [Standing.endHook_of_running_nil hrunning]
  | cons x rest =>
    simp only [List.head?_cons]
    refine ⟨h.listed x (hrunning ▸ List.mem_cons_self), ?_, (h.endHook e hrunning).1⟩
    simp only [Standing.pass, Standing.report, Standing.endHook, Standing.updateFixture,
      Standing.stopFixture, hrunning]

/-- What a message does to hooks, whether or not a test is finalized after it. -/
private theorem hookStep_dispatch (h : st.Hooked b) (hm : b.destination = .memory) (s : Session)
    (isLast : Bool) (m : Message) :
    (Backend.machine isAfterAll synchronised).HookStep (st.pass ⟨s, b⟩)
      ((st.dispatch isAfterAll isLast m).pass ⟨s, b⟩) m := by
  -- any other message leaves the fixtures alone, with or without the finalization
  have hsame : m.kind ≠ .hookStart → m.kind ≠ .hookEnd →
      Standing.SameHooks b st (st.dispatch isAfterAll isLast m) := by
    intro hstart hend
    simp only [Standing.dispatch]
    split
    · exact (Standing.sameHooks_step hstart hend st).trans (Standing.sameHooks_finalize _)
    · exact Standing.sameHooks_step hstart hend st
  -- a hook does not make a test final
  have hplain : st.finalizes m = false →
      st.dispatch isAfterAll isLast m = st.step isAfterAll m := by
    intro hfalse
    simp only [Standing.dispatch, hfalse, Bool.and_false, Bool.false_eq_true, if_false]
  cases m with
  | hookStart name kind start => exact hplain rfl ▸ hookStep_hookStart h hm s name kind start
  | hookEnd e => exact hplain rfl ▸ hookStep_hookEnd h s e
  | suiteStart | suiteEnd | testStart | testInfo | testEnd =>
    obtain ⟨hfixtures, -, hhooks⟩ := hsame (by simp [Message.kind]) (by simp [Message.kind])
    exact ⟨hfixtures, hhooks⟩
  | entry e =>
    obtain ⟨hfixtures, -, hhooks⟩ := hsame (by cases e <;> simp [Message.kind, TestEntry.kind])
      (by cases e <;> simp [Message.kind, TestEntry.kind])
    exact ⟨hfixtures, hhooks⟩

/-- A report between replays shows what its scopes list. -/
private theorem scopeResult_of_hooked (h : (Standing.initial b).Hooked b)
    (hscopes : b.scopes = []) :
    ∀ s ∈ b.writtenScopeResults,
      s.befores = b.hooks s.handle .before ∧ s.afters = b.hooks s.handle .after := by
  intro s hs
  obtain ⟨s, hmem, rfl⟩ := List.mem_map.1 hs
  have hhandles := h.handles.nodup
  simp only [Standing.allScopes, Standing.initial, List.append_nil] at hhandles
  simp only [Backend.scopeResult, Backend.hooks, hscopes, List.map_nil, List.append_nil]
  have hshown : ∀ kind, (s.ofKind kind).filterMap b.fixtures.get?
      = hooksOf b.writtenScopes b.fixtures s.handle kind := fun kind =>
    (hooksOf_of_mem hhandles hmem).symm
  exact ⟨hshown .before, hshown .after⟩

/-- The replay of any log into a report between replays succeeds, and each message does to the
fixtures what `HookStep` says. In the end the fixtures that still run are stopped without an
outcome, and all scopes have been written. They show what has become of their fixtures. -/
theorem hooks_of_replay (hb : b.BetweenReplays) (isAfterAll : String → Bool) (synchronised : Bool)
    (contextId : String) (log : List Message) :
    ∃ p q, Runs ((Backend.machine isAfterAll synchronised).dispatchUntil [] log)
        ⟨{ contextId := contextId, log := log }, b⟩ () p
      ∧ Runs (Backend.machine isAfterAll synchronised).replay
        ⟨{ contextId := contextId, log := log }, b⟩ () q
      ∧ (∀ before m after, log = before ++ m :: after → ∃ r r',
        Runs ((Backend.machine isAfterAll synchronised).dispatchUntil (m :: after) before)
          ⟨{ contextId := contextId, log := log }, b⟩ () r
        ∧ Runs ((Backend.machine isAfterAll synchronised).dispatch after.isEmpty m) r () r'
        ∧ (Backend.machine isAfterAll synchronised).HookStep r r' m)
      ∧ (∀ scope kind, q.world.hooks scope kind = (p.world.hooks scope kind).map fun r =>
        if r.handle ∈ unclosed .startFixture .stopFixture p.world.calls then r.unmatched else r)
      ∧ q.world.scopes = []
      ∧ ∀ s ∈ q.world.writtenScopeResults,
        s.befores = q.world.hooks s.handle .before ∧ s.afters = q.world.hooks s.handle .after := by
  have hm := hb.idle.memory
  have hstart := Standing.pass_initial hb.idle contextId log
  -- every part of the log leads to a standing
  have huntil : ∀ rest log',
      Runs ((Backend.machine isAfterAll synchronised).dispatchUntil rest log')
        ⟨{ contextId := contextId, log := log }, b⟩ ()
        (((Standing.initial b).dispatchUntil isAfterAll rest log').pass
          ⟨{ contextId := contextId, log := log }, b⟩) := fun rest log' => by
    have hruns : Runs ((Backend.machine isAfterAll synchronised).dispatchUntil rest log')
        ((Standing.initial b).pass ⟨{ contextId := contextId, log := log }, b⟩) () _ :=
      runs_dispatchUntil hm hb.hooked.sound rest log'
    rwa [hstart] at hruns
  have hreplay := runs_replay hb.idle isAfterAll synchronised contextId log
  refine ⟨_, _, huntil [] log, hreplay, ?_, ?_, (hb.replayed hreplay).idle.scopes,
    scopeResult_of_hooked (hb.replayed hreplay).hooked (hb.replayed hreplay).idle.scopes⟩
  -- each message, from what the ones before it lead to
  · rintro before m after -
    have hhooked := hb.hooked.dispatchUntil isAfterAll (m :: after) before
    exact ⟨_, _, huntil (m :: after) before, runs_dispatch hm hhooked.sound _ m,
      hookStep_dispatch hhooked hm _ _ m⟩
  -- the end of the log stops what still runs
  · have hhooked := hb.hooked.dispatchUntil isAfterAll [] log
    have hrunning : unclosed .startFixture .stopFixture
          (((Standing.initial b).dispatchUntil isAfterAll [] log).pass
            ⟨{ contextId := contextId, log := log }, b⟩).world.calls
        = ((Standing.initial b).dispatchUntil isAfterAll [] log).running.reverse := hhooked.running
    intro scope kind
    simp only [hrunning, List.mem_reverse]
    rw [Standing.dispatchUntil_nil] at hhooked ⊢
    exact hhooked.settle.1 scope kind

/-- A fixture that outlives the scope that lists it, after the test that was open has been
finalized, and one that is never ended. -/
theorem hooks_of_outliving_hook :
    (Backend.inMemory {}).BetweenReplays ∧ ∃ q r r',
      Runs (Backend.machine (· = "teardown") true).replay
        ⟨{ contextId := "main"
           log := [.suiteStart "outer" false, .testStart "a" 1, .hookStart "teardown" .after 2,
             .suiteEnd, .hookEnd { status := .passed, stop := 5 }, .suiteStart "next" false,
             .hookStart "open" .before 6] },
          .inMemory {}⟩ () q
      ∧ (Backend.machine (· = "teardown") true).HookStep r r'
        (.hookEnd { status := .passed, stop := 5 })
      ∧ (∀ s ∈ q.world.writtenScopeResults,
        s.befores = q.world.hooks s.handle .before ∧ s.afters = q.world.hooks s.handle .after)
      ∧ q.world.writtenScopeResults.map (fun s => s.afters.map (·.duration)) = [[], [some 3], []]
      ∧ q.world.writtenScopeResults.map (fun s => s.befores.map (·.status)) = [[], [], [none]] := by
  have hb := Backend.BetweenReplays.fresh {}
  obtain ⟨p, q, -, hreplay, hsteps, -, -, hwritten⟩ := hooks_of_replay hb (· = "teardown") true
    "main" [.suiteStart "outer" false, .testStart "a" 1, .hookStart "teardown" .after 2, .suiteEnd,
      .hookEnd { status := .passed, stop := 5 }, .suiteStart "next" false,
      .hookStart "open" .before 6]
  obtain ⟨r, r', -, -, hstep⟩ := hsteps [.suiteStart "outer" false, .testStart "a" 1,
    .hookStart "teardown" .after 2, .suiteEnd] _ _ rfl
  obtain ⟨-, hq⟩ := hreplay.unique (runs_replay hb.idle _ _ _ _)
  refine ⟨hb, q, r, r', hreplay, hstep, hwritten, ?_, ?_⟩ <;> rw [hq] <;> decide +kernel

end Machine

end Chronicle
