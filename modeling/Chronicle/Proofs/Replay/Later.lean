import Chronicle.Proofs.Replay.Outcome
import Chronicle.Proofs.Report.Renaming

/-!
# Replays that begin later

A replay into a report that has been used before draws other handles than one into a fresh report,
and finds fixtures that are not its own. Nothing else is different: `Standing.later` is a standing
as it would be after other draws, and every move commutes with it: `Standing.replay_initial`.
-/
namespace Chronicle

/-- The open test under its other handle. -/
def Current.shift (k : Nat) (c : Current) : Current :=
  ⟨c.test.shift k, c.ended⟩

/-- The handle of the current test moves with the test. -/
@[simp] theorem Current.handle_shift (k : Nat) (c : Current) :
    (c.shift k).handle = c.handle.shift k := rfl

/-- A child of a scope moves with the scope. -/
private theorem Scope.shift_addChild (k : Nat) (s : Scope) (test : Handle) :
    (s.addChild test).shift k = (s.shift k).addChild (test.shift k) := by
  simp only [addChild, shift, List.map_append, List.map_cons, List.map_nil]

/-- So does a fixture. -/
private theorem Scope.shift_addFixture (k : Nat) (s : Scope) (kind : HookKind) (fixture : Handle) :
    (s.addFixture kind fixture).shift k = (s.shift k).addFixture kind (fixture.shift k) := by
  cases kind <;> simp only [addFixture, shift, List.map_append, List.map_cons, List.map_nil]

namespace Standing

/-- The standing as it would be if `k` other draws had come first and had left the fixtures
`known`. -/
def later (k : Nat) (known : Table FixtureResult) (st : Standing) : Standing where
  scopes := st.scopes.map (·.shift k)
  current := st.current.map (·.shift k)
  running := st.running.map (·.shift k)
  drawn := st.drawn + k
  fixtures := st.fixtures.map (fun e => (e.1.shift k, e.2.shift k)) ++ known
  attachments := st.attachments.map fun a => (shiftSource k a.1, a.2)
  writtenTests := st.writtenTests.map (·.shift k)
  writtenScopes := st.writtenScopes.map (·.shift k)
  calls := st.calls.map fun call => (call.1, call.2.shift k)

/-- A replay begins on a used report as it would on a fresh one, only later. -/
private theorem later_initial (b : Backend) (disk : FileTree) :
    (initial (.inMemory disk)).later b.drawn b.fixtures = initial b := by
  simp [later, initial, Backend.inMemory]

variable {k : Nat} {known : Table FixtureResult} {st : Standing}

/-! ### Moves -/

/-- The next handle is as much later as everything else. -/
private theorem next_later : (st.later k known).next = st.next.shift k :=
  (Handle.shift_drawn k st.drawn).symm

/-- It makes no difference whether a scope is opened before or after the shift. -/
private theorem later_openScope : (st.later k known).openScope = st.openScope.later k known := by
  rw [openScope, next_later]
  simp [openScope, later, Scope.shift, Nat.add_right_comm]

/-- Nor whether the innermost scope is closed before or after. -/
private theorem later_closeScope : (st.later k known).closeScope = st.closeScope.later k known := by
  cases hs : st.scopes <;> simp [closeScope, later, hs, Scope.shift]

/-- Nor whether a test is begun before or after. -/
private theorem later_beginTest (name : String) (start : Int) :
    (st.later k known).beginTest name start = (st.beginTest name start).later k known := by
  rw [beginTest, next_later]
  simp [beginTest, later, Scope.shift_addChild, Current.shift, OpenTest.shift, TestResult.shift,
    Nat.add_right_comm, Function.comp_def]

/-- Nor whether the current test is changed before or after, if the change does not look at
handles. -/
private theorem later_changeTest (op : Operation) {f : OpenTest → OpenTest}
    (hf : ∀ t, (f t).shift k = f (t.shift k)) :
    (st.later k known).changeTest op f = (st.changeTest op f).later k known := by
  cases hc : st.current with
  | none => simp [changeTest, later, hc]
  | some c =>
    simp [changeTest, later, hc, hf, Current.shift]
    exact Current.handle_shift k c

/-- A file is attached under a name that moves with the handle it is made of. -/
private theorem later_attach (file : Attachment) :
    (st.later k known).attach file = (st.attach file).later k known := by
  cases hc : st.current with
  | none => simp [attach, later, hc]
  | some c =>
    have hsource := shiftSource_sourceName k st.drawn file.contentType
    simp [attach, later, hc, next, hsource, OpenTest.shift_attach, AttachmentRef.shift,
      Current.shift, Nat.add_right_comm]
    exact Current.handle_shift k c

/-- Stopping the current test does not look at handles. -/
private theorem later_stopTest (stop duration : Option Int) :
    (st.later k known).stopTest stop duration = (st.stopTest stop duration).later k known := by
  cases hc : st.current with
  | none => simp [stopTest, later, hc]
  | some c =>
    have hstopped : ∀ r : TestResult,
        (r.stopped stop duration).shift k = (r.shift k).stopped stop duration := fun _ => rfl
    simp [stopTest, later, hc, OpenTest.shift_update k c.test hstopped, Current.shift]
    exact Current.handle_shift k c

/-- Writing the current test does not look at handles. -/
private theorem later_writeTest : (st.later k known).writeTest = st.writeTest.later k known := by
  cases hc : st.current with
  | none => simp [writeTest, later, hc]
  | some c =>
    simp [writeTest, later, hc, OpenTest.shift_snapshot, Current.shift]
    exact Current.handle_shift k c

/-- A fixture starts under the next handle, which is as much later. -/
private theorem later_startFixture (kind : HookKind) (name : String) (start : Int) :
    (st.later k known).startFixture kind name start
      = (st.startFixture kind name start).later k known := by
  rw [startFixture, next_later]
  cases hs : st.scopes <;>
    simp [startFixture, later, hs, Scope.shift_addFixture, FixtureResult.shift, Table.insert,
      Nat.add_right_comm]

/-- The fixtures that are there already have other handles than those that are drawn later, so a
change of one of these leaves them alone. -/
private theorem change_later (hknown : ∀ h ∈ known.handles, h.IsBefore k) {h : Handle} {n : Nat}
    (hh : h.IsBefore n) (t : Table FixtureResult) {f : FixtureResult → FixtureResult}
    (hf : ∀ r, (f r).shift k = f (r.shift k)) :
    Table.change (t.map (fun e => (e.1.shift k, e.2.shift k)) ++ known) (h.shift k) f
      = (t.change h f).map (fun e => (e.1.shift k, e.2.shift k)) ++ known := by
  -- the earlier entries have handles below the shift, so they stay
  have hother : h.shift k ∉ known.handles := fun hmem => hh.not_isBefore_shift k (hknown _ hmem)
  have hsame := Table.change_of_not_mem hother f
  simp only [Table.change] at hsame
  simp only [Table.change, List.map_append, hsame, List.map_map]
  congr 1
  refine List.map_congr_left fun e _ => ?_
  -- shifting keeps apart what was apart
  by_cases heq : e.1 = h
  · simp only [Function.comp_apply, heq, if_true, hf]
  · have hne : e.1.shift k ≠ h.shift k := fun hsh => heq (Handle.shift_injective k hsh)
    simp only [Function.comp_apply, heq, hne, if_false]

/-- A fixture that is running has been drawn. -/
theorem Sound.drawn_running (hs : st.Sound) {h : Handle} (hh : h ∈ st.running) :
    h.IsBefore st.drawn :=
  hs.drawn h (List.mem_append_right _ (List.mem_append_right _ hh))

/-- The fixture that is changed has been drawn by the replay, so it is none of the earlier ones. -/
private theorem later_updateFixture (hknown : ∀ h ∈ known.handles, h.IsBefore k) (hs : st.Sound)
    {f : FixtureResult → FixtureResult} (hf : ∀ r, (f r).shift k = f (r.shift k)) :
    (st.later k known).updateFixture f = (st.updateFixture f).later k known := by
  cases hr : st.running with
  | nil => simp [updateFixture, later, hr]
  | cons h rest =>
    have hh : h.IsBefore st.drawn := hs.drawn_running (hr ▸ List.mem_cons_self)
    simp [updateFixture, later, hr, change_later hknown hh st.fixtures hf]

/-- Nor is the fixture that is stopped. -/
private theorem later_stopFixture (hknown : ∀ h ∈ known.handles, h.IsBefore k) (hs : st.Sound)
    (stop duration : Option Int) :
    (st.later k known).stopFixture stop duration
      = (st.stopFixture stop duration).later k known := by
  cases hr : st.running with
  | nil => simp [stopFixture, later, hr]
  | cons h rest =>
    have hh : h.IsBefore st.drawn := hs.drawn_running (hr ▸ List.mem_cons_self)
    have hstopped : ∀ r : FixtureResult,
        (r.stopped stop duration).shift k = (r.shift k).stopped stop duration := fun _ => rfl
    simp [stopFixture, later, hr, change_later hknown hh st.fixtures hstopped]

/-! ### Messages -/

/-- The test is finalized before or after the shift alike, with its scope. -/
private theorem later_finalize : (st.later k known).finalize = st.finalize.later k known := by
  cases hc : st.current with
  | none => simp [finalize, later, hc]
  | some c =>
    have hc' : (st.later k known).current = some (c.shift k) := by simp [later, hc]
    simp only [finalize, hc, hc', later_closeScope, later_writeTest]

/-- The test is named before or after the shift alike. -/
private theorem later_nameTest (fullName : String) :
    (st.later k known).nameTest fullName = (st.nameTest fullName).later k known := by
  have hname := fun t => OpenTest.shift_update k t
    (f := fun r => { r with fullName := some fullName }) fun _ => rfl
  have hchange : (st.later k known).changeTest .updateTest _ = _ := later_changeTest _ hname
  rcases hc : st.current with _ | ⟨t, _ | _⟩ <;>
    simp_all [nameTest, later, Current.shift]

/-- Steps left open are closed before or after the shift alike, by induction on their number. -/
private theorem later_closeSteps (status : Status) (stop : Int) (n : Nat) :
    (st.later k known).closeSteps status stop n
      = (st.closeSteps status stop n).later k known := by
  induction n generalizing st with
  | zero => rfl
  | succ n ih =>
    rw [closeSteps, later_changeTest _ fun t => OpenTest.shift_closeStep k t status stop none, ih,
      closeSteps]

/-- The test ends before or after the shift alike. -/
private theorem later_endTest (e : TestEnding) :
    (st.later k known).endTest e = (st.endTest e).later k known := by
  rcases hc : st.current with _ | ⟨t, _ | _⟩
  · simp [endTest, later, hc]
  · have hc' : (st.later k known).current = some ⟨t.shift k, false⟩ := by
      simp [later, hc, Current.shift]
    have hlength : (t.shift k).openSteps.length = t.openSteps.length := by simp [OpenTest.shift]
    have hended := fun t => OpenTest.shift_update k t (f := (·.ended e)) fun _ => rfl
    simp only [endTest, hc, hc', hlength, later_closeSteps, later_changeTest _ hended,
      later_stopTest]
  · simp [endTest, later, hc, Current.shift]

/-- A hook starts before or after the shift alike, finalizing the test or not. -/
private theorem later_startHook (isAfterAll : String → Bool) (name : String) (kind : HookKind)
    (start : Int) :
    (st.later k known).startHook isAfterAll name kind start
      = (st.startHook isAfterAll name kind start).later k known := by
  cases h : isAfterAll name <;> simp [startHook, h, later_finalize, later_startFixture]

/-- A hook ends before or after the shift alike. -/
private theorem later_endHook (hknown : ∀ h ∈ known.handles, h.IsBefore k) (hs : st.Sound)
    (e : HookEnding) :
    (st.later k known).endHook e = (st.endHook e).later k known := by
  have hs' := (Move.updateFixture st (·.ended e)).sound hs
  have hended : ∀ r : FixtureResult, (r.ended e).shift k = (r.shift k).ended e := fun _ => rfl
  rw [endHook, later_updateFixture hknown hs hended, later_stopFixture hknown hs', endHook]

/-- An entry is applied before or after the shift alike. -/
private theorem later_applyEntry (e : TestEntry) :
    (st.later k known).applyEntry e = (st.applyEntry e).later k known := by
  cases e with
  | stepStart name start =>
    exact later_changeTest _ fun t => OpenTest.shift_openStep k t name start
  | stepStop status stop details =>
    exact later_changeTest _ fun t => OpenTest.shift_closeStep k t status stop details
  | metadata labels parameters =>
    exact later_changeTest _ fun t => OpenTest.shift_describe k t labels parameters
  | attachment file => exact later_attach file

/-- One message makes the same of a standing before and after the shift. -/
private theorem later_step (hknown : ∀ h ∈ known.handles, h.IsBefore k) (hs : st.Sound)
    (isAfterAll : String → Bool) (m : Message) :
    (st.later k known).step isAfterAll m = (st.step isAfterAll m).later k known := by
  cases m with
  | suiteStart name isFeature => simp only [step, later_finalize, later_openScope]
  | suiteEnd => exact later_closeScope
  | testStart name start => simp only [step, later_finalize, later_openScope, later_beginTest]
  | testInfo fullName => exact later_nameTest fullName
  | testEnd e => exact later_endTest e
  | hookStart name kind start => exact later_startHook isAfterAll name kind start
  | hookEnd e => exact later_endHook hknown hs e
  | entry e => exact later_applyEntry e

/-- Whether the last message finalizes the open test does not depend on handles. -/
private theorem finalizes_later (m : Message) :
    (st.later k known).finalizes m = st.finalizes m := by
  cases m with
  | testEnd e => rcases hc : st.current with _ | ⟨t, _ | _⟩ <;>
      simp [finalizes, unended, later, hc, Current.shift]
  | _ => rfl

/-- The same with the finalizations that a message brings about. -/
private theorem later_dispatch (hknown : ∀ h ∈ known.handles, h.IsBefore k) (hs : st.Sound)
    (isAfterAll : String → Bool) (isLast : Bool) (m : Message) :
    (st.later k known).dispatch isAfterAll isLast m
      = (st.dispatch isAfterAll isLast m).later k known := by
  simp only [dispatch, finalizes_later, later_step hknown hs]
  split
  · exact later_finalize
  · rfl

/-! ### Replays -/

/-- A whole log makes the same of a standing before and after the shift, by induction on the log. -/
private theorem later_dispatchAll (hknown : ∀ h ∈ known.handles, h.IsBefore k) (hs : st.Sound)
    (isAfterAll : String → Bool) (log : List Message) :
    (st.later k known).dispatchAll isAfterAll log
      = (st.dispatchAll isAfterAll log).later k known := by
  induction log generalizing st with
  | nil => rfl
  | cons m rest ih =>
    have hs' := Moves.sound (moves_dispatch isAfterAll rest.isEmpty m st) hs
    rw [dispatchAll, later_dispatch hknown hs, ih hs', dispatchAll]

/-- Fixtures left running are stopped before or after the shift alike. -/
private theorem later_stopFixtures (hknown : ∀ h ∈ known.handles, h.IsBefore k) (hs : st.Sound)
    (fixtures : List Handle) :
    (st.later k known).stopFixtures (fixtures.map (·.shift k))
      = (st.stopFixtures fixtures).later k known := by
  induction fixtures generalizing st with
  | nil => rfl
  | cons h rest ih =>
    have hs' := (Move.stopFixture st none none).sound hs
    rw [List.map_cons, stopFixtures, later_stopFixture hknown hs, ih hs', stopFixtures]

/-- Scopes left open are closed before or after the shift alike. -/
private theorem later_closeScopes (scopes : List Scope) :
    (st.later k known).closeScopes (scopes.map (·.shift k))
      = (st.closeScopes scopes).later k known := by
  induction scopes generalizing st with
  | nil => rfl
  | cons s rest ih => rw [List.map_cons, closeScopes, later_closeScope, ih, closeScopes]

/-- A standing settles before or after the shift alike. -/
private theorem later_settle (hknown : ∀ h ∈ known.handles, h.IsBefore k) (hs : st.Sound) :
    (st.later k known).settle = st.settle.later k known := by
  have hrunning : (st.later k known).running = st.running.map (·.shift k) := rfl
  simp only [settle, hrunning, later_stopFixtures hknown hs, later_finalize]
  exact later_closeScopes _

/-- A replay into a report that has been used before goes as one into a fresh report, only later. -/
theorem replay_initial {b : Backend} (hknown : ∀ h ∈ b.fixtures.handles, h.IsBefore b.drawn)
    (isAfterAll : String → Bool) (log : List Message) (disk : FileTree) :
    (initial b).replay isAfterAll log
      = ((initial (.inMemory disk)).replay isAfterAll log).later b.drawn b.fixtures := by
  have hs := sound_initial (.inMemory disk)
  have hs' := Moves.sound (moves_dispatchAll isAfterAll log _) hs
  rw [← later_initial b disk, replay, later_dispatchAll hknown hs, later_settle hknown hs', replay]

end Standing

end Chronicle
