import Chronicle.Proofs.Replay.Standing
import Mathlib.Logic.Relation

/-!
# The moves of a replay

`Move` lists the ten things that can happen to a standing, each about a single scope, test or
fixture. What every move keeps, a whole replay keeps: `moves_step`, `moves_dispatchAll` and
`moves_settle` take a replay apart into moves.

`Standing.Sound` is the first thing that is kept: nothing is open under two handles, and no handle
that is open is still to be drawn.
-/
namespace Chronicle

/-! ### Open tests keep their handle -/

namespace OpenTest

/-- Whether a change leaves the handle of every test alone. -/
def KeepsHandle (f : OpenTest → OpenTest) : Prop :=
  ∀ t, (f t).result.handle = t.result.handle

/-- A change of the record keeps the handle of the test if it keeps the one of the record. -/
theorem keepsHandle_update {f : TestResult → TestResult} (hf : ∀ r, (f r).handle = r.handle) :
    KeepsHandle (·.update f) := fun t => hf t.result

theorem keepsHandle_openStep (name : String) (start : Int) :
    KeepsHandle (·.openStep name start) := fun _ => rfl

/-- A step that closes goes into the record or into the step around it. -/
theorem keepsHandle_closeStep (status : Status) (stop : Int) (details : Option StatusDetails) :
    KeepsHandle (·.closeStep status stop details) := by
  rintro ⟨r, _ | ⟨s, _ | ⟨outer, rest⟩⟩⟩ <;> rfl

/-- One open step less, or none as before. -/
theorem length_closeStep (t : OpenTest) (status : Status) (stop : Int)
    (details : Option StatusDetails) :
    (t.closeStep status stop details).openSteps.length = t.openSteps.length - 1 := by
  obtain ⟨r, _ | ⟨s, _ | ⟨outer, rest⟩⟩⟩ := t <;> rfl

/-- However many steps are closed, the test keeps its handle. -/
theorem keepsHandle_closeSteps (status : Status) (stop : Int) (n : Nat) :
    KeepsHandle (·.closeSteps status stop n) := by
  induction n with
  | zero => exact fun _ => rfl
  | succ n ih => exact fun t => (ih _).trans (keepsHandle_closeStep status stop none t)

/-- An attachment goes to the innermost step or to the test. -/
theorem keepsHandle_attach (ref : AttachmentRef) : KeepsHandle (·.attach ref) := by
  rintro ⟨r, _ | ⟨s, rest⟩⟩ <;> rfl

theorem keepsHandle_describe (labels : List Label) (parameters : List Parameter) :
    KeepsHandle (·.describe labels parameters) := fun _ => rfl

end OpenTest

namespace Standing

/-- One thing that happens in a replay. -/
inductive Move : Standing → Standing → Prop
  | openScope (st : Standing) : Move st st.openScope
  | closeScope (st : Standing) : Move st st.closeScope
  | beginTest {st : Standing} (name : String) (start : Int) (hc : st.current = none) :
      Move st (st.beginTest name start)
  | changeTest (st : Standing) {op : Operation} {f : OpenTest → OpenTest}
      (hop : op = .updateTest ∨ op = .applyMessages) (hf : OpenTest.KeepsHandle f) :
      Move st (st.changeTest op f)
  | attach (st : Standing) (file : Attachment) : Move st (st.attach file)
  | stopTest {st : Standing} {c : Current} (stop duration : Option Int)
      (hc : st.current = some c) (hended : c.ended = false) : Move st (st.stopTest stop duration)
  | writeTest (st : Standing) : Move st st.writeTest
  | startFixture (st : Standing) (kind : HookKind) (name : String) (start : Int) :
      Move st (st.startFixture kind name start)
  | updateFixture (st : Standing) (f : FixtureResult → FixtureResult) :
      Move st (st.updateFixture f)
  | stopFixture (st : Standing) (stop duration : Option Int) :
      Move st (st.stopFixture stop duration)

/-- Any number of moves. -/
abbrev Moves : Standing → Standing → Prop :=
  Relation.ReflTransGen Move

/-! ### What is open -/

/-- What can be open, and whether a test has ended. -/
inductive NodeState where
  | scope
  | test (ended : Bool)
  | fixture
  deriving DecidableEq, Repr, Inhabited

namespace NodeState

/-- The operation that opens something. -/
def opener : NodeState → Operation
  | .scope => .startScope
  | .test _ => .startTest
  | .fixture => .startFixture

/-- The operation that closes something. -/
def closer : NodeState → Operation
  | .scope => .writeScope
  | .test _ => .writeTest
  | .fixture => .stopFixture

/-- Which operations leave something open, and how. A test is stopped once. -/
inductive Allows : NodeState → Operation → NodeState → Prop
  | updateTest (ended : Bool) : Allows (.test ended) .updateTest (.test ended)
  | applyMessages (ended : Bool) : Allows (.test ended) .applyMessages (.test ended)
  | stopTest : Allows (.test false) .stopTest (.test true)
  | updateFixture : Allows .fixture .updateFixture .fixture

end NodeState

/-- Everything that is open: scopes, the test, fixtures. -/
def nodes (st : Standing) : List (Handle × NodeState) :=
  st.scopes.map (fun s => (s.handle, .scope))
    ++ (st.current.toList.map (fun c => (c.handle, .test c.ended))
      ++ st.running.map fun h => (h, .fixture))

/-- The handles of what is open are those that are held. -/
theorem map_fst_nodes (st : Standing) : st.nodes.map (·.1) = st.held := by
  simp [nodes, held, Function.comp_def]

/-- What a move amounts to: one thing is opened, used or closed by one call, or nothing happens. -/
inductive Effect (st st' : Standing) : Prop
  | nothing (hnodes : st'.nodes = st.nodes) (hcalls : st'.calls = st.calls)
      (hdrawn : st'.drawn = st.drawn)
  | opens (k : NodeState) (hk : k ≠ .test true) (hnodes : st'.nodes.Perm ((st.next, k) :: st.nodes))
      (hcalls : st'.calls = st.calls ++ [(k.opener, st.next)]) (hdrawn : st'.drawn = st.drawn + 1)
  | uses (h : Handle) {k k' : NodeState} {op : Operation} (hop : k.Allows op k')
      (rest : List (Handle × NodeState)) (hbefore : st.nodes.Perm ((h, k) :: rest))
      (hafter : st'.nodes.Perm ((h, k') :: rest)) (hcalls : st'.calls = st.calls ++ [(op, h)])
      (hdrawn : st.drawn ≤ st'.drawn)
  | closes (h : Handle) (k : NodeState) (hbefore : st.nodes.Perm ((h, k) :: st'.nodes))
      (hcalls : st'.calls = st.calls ++ [(k.closer, h)]) (hdrawn : st'.drawn = st.drawn)

variable {st st' : Standing}

@[simp] theorem handle_addChild (s : Scope) (test : Handle) : (s.addChild test).handle = s.handle :=
  rfl

/-- A fixture does not change the handle of its scope. -/
@[simp] theorem handle_addFixture (s : Scope) (kind : HookKind) (fixture : Handle) :
    (s.addFixture kind fixture).handle = s.handle := by
  cases kind <;> rfl

/-- The open test stands between the scopes and the fixtures. -/
private theorem nodes_perm_of_current {c : Current} (hc : st.current = some c) :
    st.nodes.Perm ((c.handle, .test c.ended) ::
      (st.scopes.map (fun s => (s.handle, .scope)) ++ st.running.map fun h => (h, .fixture))) := by
  simp only [nodes, hc, Option.toList_some, List.map_cons, List.map_nil, List.singleton_append]
  exact List.perm_middle

/-- The newest fixture stands before the others, after all else. -/
private theorem nodes_perm_of_running {h : Handle} {rest : List Handle}
    (hr : st.running = h :: rest) :
    st.nodes.Perm ((h, .fixture) ::
      (st.scopes.map (fun s => (s.handle, .scope))
        ++ (st.current.toList.map (fun c => (c.handle, .test c.ended))
          ++ rest.map fun h => (h, .fixture)))) := by
  simp only [nodes, hr, List.map_cons]
  rw [← List.append_assoc, ← List.append_assoc]
  exact List.perm_middle

/-- A change of the open test changes it and not whether it has ended. -/
theorem current_changeTest {c : Current} (hc : st.current = some c) (op : Operation)
    (f : OpenTest → OpenTest) : (st.changeTest op f).current = some ⟨f c.test, c.ended⟩ := by
  simp only [changeTest, hc]

/-- What changes nothing has the effect of nothing. -/
theorem Effect.refl (st : Standing) : Effect st st :=
  .nothing rfl rfl rfl

/-! What finds nothing to act on changes nothing. Otherwise the thing it acts on is brought to the
front of what is open, so that the rest of it can be seen to stay. -/

/-- The innermost scope is closed. -/
private theorem effect_closeScope (st : Standing) : Effect st st.closeScope := by
  cases hs : st.scopes with
  | nil =>
    simp only [closeScope, hs]
    exact .refl st
  | cons s rest =>
    refine .closes s.handle .scope ?_ ?_ ?_ <;>
      simp [closeScope, hs, nodes, NodeState.closer]

/-- The scopes get a child, which does not show in their handles. -/
private theorem effect_beginTest (name : String) (start : Int) (hc : st.current = none) :
    Effect st (st.beginTest name start) := by
  refine .opens (.test false) nofun ?_ rfl rfl
  simp only [beginTest, nodes, hc, List.map_map]
  exact List.perm_middle

/-- A change of the open test is one call on it, and nothing is opened or closed. -/
private theorem effect_changeTest {op : Operation} {f : OpenTest → OpenTest}
    (hop : op = .updateTest ∨ op = .applyMessages) (hf : OpenTest.KeepsHandle f) :
    Effect st (st.changeTest op f) := by
  cases hc : st.current with
  -- with no test open nothing happens
  | none =>
    simp only [changeTest, hc]
    exact .refl st
  | some c =>
    have hafter := nodes_perm_of_current (current_changeTest hc op f)
    -- whether the test has ended does not matter to either operation
    have hallows : NodeState.Allows (.test c.ended) op (.test c.ended) := by
      rcases hop with rfl | rfl
      · exact .updateTest c.ended
      · exact .applyMessages c.ended
    refine .uses c.handle hallows _ (nodes_perm_of_current hc) ?_ ?_ ?_
    · simpa [changeTest, hc, Current.handle, hf c.test] using hafter
    · simp only [changeTest, hc]
    · simp only [changeTest, hc, Nat.le_refl]

/-- The handle that is drawn goes into the source of the attachment, it opens nothing. -/
private theorem effect_attach (st : Standing) (file : Attachment) :
    Effect st (st.attach file) := by
  cases hc : st.current with
  | none =>
    simp only [Standing.attach, hc]
    exact .refl st
  | some c =>
    -- an attachment is applied like an entry, and keeps the handle
    refine .uses c.handle (.applyMessages c.ended) _ (nodes_perm_of_current hc) ?_ ?_ ?_
    · simp only [Standing.attach, hc, nodes]
      simp [Current.handle, OpenTest.keepsHandle_attach _ c.test]
    · simp only [Standing.attach, hc]
    · simp only [Standing.attach, hc]
      omega

/-- A test that stops is open as a test that has ended. -/
private theorem effect_stopTest {c : Current} (stop duration : Option Int)
    (hc : st.current = some c) (hended : c.ended = false) :
    Effect st (st.stopTest stop duration) := by
  have hbefore := nodes_perm_of_current hc
  rw [hended] at hbefore
  refine .uses c.handle .stopTest _ hbefore ?_ ?_ ?_
  · simp only [stopTest, hc, nodes]
    exact List.perm_middle
  · simp only [stopTest, hc]
  · simp only [stopTest, hc, Nat.le_refl]

/-- The open test is closed, whether it has ended or not. -/
private theorem effect_writeTest (st : Standing) : Effect st st.writeTest := by
  cases hc : st.current with
  | none =>
    simp only [writeTest, hc]
    exact .refl st
  | some c =>
    refine .closes c.handle (.test c.ended) ?_ ?_ ?_
    · simp [writeTest, hc, nodes]
    · simp only [writeTest, hc, NodeState.closer]
    · simp only [writeTest, hc]

/-- A fixture is opened if there is a scope for it. -/
private theorem effect_startFixture (st : Standing) (kind : HookKind) (name : String)
    (start : Int) : Effect st (st.startFixture kind name start) := by
  cases hs : st.scopes with
  -- with no scope open nothing happens
  | nil =>
    simp only [startFixture, hs]
    exact .refl st
  | cons s rest =>
    have hrunning : (st.startFixture kind name start).running = st.next :: st.running := by
      simp only [startFixture, hs]
    refine .opens .fixture nofun ?_ ?_ ?_
    · simpa [startFixture, hs, nodes] using nodes_perm_of_running hrunning
    · simp only [startFixture, hs, NodeState.opener]
    · simp only [startFixture, hs]

/-- The fixture that was started last is changed by one call. -/
private theorem effect_updateFixture (st : Standing) (f : FixtureResult → FixtureResult) :
    Effect st (st.updateFixture f) := by
  cases hr : st.running with
  | nil =>
    simp only [updateFixture, hr]
    exact .refl st
  | cons h rest =>
    refine .uses h .updateFixture _ (nodes_perm_of_running hr) ?_ ?_ ?_
    · simpa [updateFixture, hr, nodes] using nodes_perm_of_running hr
    · simp only [updateFixture, hr]
    · simp only [updateFixture, hr, Nat.le_refl]

/-- The fixture that was started last is closed. -/
private theorem effect_stopFixture (st : Standing) (stop duration : Option Int) :
    Effect st (st.stopFixture stop duration) := by
  cases hr : st.running with
  | nil =>
    simp only [stopFixture, hr]
    exact .refl st
  | cons h rest =>
    refine .closes h .fixture ?_ ?_ ?_
    · simpa [stopFixture, hr, nodes] using nodes_perm_of_running hr
    · simp only [stopFixture, hr, NodeState.closer]
    · simp only [stopFixture, hr]

/-- Every move has one of the four effects. -/
theorem Move.effect (hm : Move st st') : Effect st st' := by
  cases hm with
  | openScope => exact .opens .scope nofun (.refl _) rfl rfl
  | closeScope => exact effect_closeScope st
  | beginTest name start hc => exact effect_beginTest name start hc
  | changeTest hop hf => exact effect_changeTest hop hf
  | attach file => exact effect_attach st file
  | stopTest stop duration hc hended => exact effect_stopTest stop duration hc hended
  | writeTest => exact effect_writeTest st
  | startFixture kind name start => exact effect_startFixture st kind name start
  | updateFixture f => exact effect_updateFixture st f
  | stopFixture stop duration => exact effect_stopFixture st stop duration

/-! ### Sound standings -/

/-- Nothing is open under two handles, and all handles that are open have been drawn. -/
structure Sound (st : Standing) : Prop where
  nodup : st.held.Nodup
  drawn : ∀ h ∈ st.held, h.IsBefore st.drawn

/-- Things that are open in the same order or another have the same handles. -/
theorem held_perm {nodes : List (Handle × NodeState)} (hnodes : st.nodes.Perm nodes) :
    st.held.Perm (nodes.map (·.1)) := by
  rw [← map_fst_nodes]
  exact hnodes.map _

/-- Each of the four effects keeps a standing sound. -/
theorem Effect.sound (he : Effect st st') (hs : st.Sound) : st'.Sound := by
  obtain ⟨hnodup, hdrawn⟩ := hs
  cases he with
  -- the same nodes and handles
  | nothing hnodes hcalls hle =>
    have hheld : st'.held = st.held := by rw [← map_fst_nodes, ← map_fst_nodes, hnodes]
    exact ⟨hheld ▸ hnodup, fun h hmem => hle ▸ hdrawn h (hheld ▸ hmem)⟩
  | opens k hk hnodes hcalls heq =>
    have hheld := held_perm hnodes
    rw [List.map_cons, map_fst_nodes] at hheld
    -- what is open has been drawn before, so the new handle is none of it
    have hnew : st.next ∉ st.held := by
      intro hmem
      exact Handle.not_isBefore_drawn st.drawn (hdrawn _ hmem)
    refine ⟨hheld.nodup_iff.2 (List.nodup_cons.2 ⟨hnew, hnodup⟩), fun h hmem => ?_⟩
    rw [heq]
    rcases List.mem_cons.1 (hheld.subset hmem) with rfl | hmem
    · exact ⟨st.drawn, by omega, rfl⟩
    · exact (hdrawn h hmem).mono (by omega)
  -- the node that is used stays where it is
  | uses h hop rest hbefore hafter hcalls hle =>
    have hheld : st'.held.Perm st.held := (held_perm hafter).trans (held_perm hbefore).symm
    exact ⟨hheld.nodup_iff.2 hnodup, fun x hmem => (hdrawn x (hheld.subset hmem)).mono hle⟩
  -- one handle less, and none new
  | closes h k hbefore hcalls heq =>
    have hheld := held_perm hbefore
    rw [List.map_cons, map_fst_nodes] at hheld
    refine ⟨(List.nodup_cons.1 (hheld.nodup_iff.1 hnodup)).2, fun x hmem => ?_⟩
    rw [heq]
    exact hdrawn x (hheld.symm.subset (List.mem_cons_of_mem _ hmem))

/-- A move keeps a standing sound, since it has one of the four effects. -/
theorem Move.sound (hm : Move st st') (hs : st.Sound) : st'.Sound :=
  hm.effect.sound hs

/-- Any number of moves keep a standing sound. -/
theorem Moves.sound (hm : Moves st st') (hs : st.Sound) : st'.Sound := by
  induction hm with
  | refl => exact hs
  | tail _ hmove ih => exact hmove.sound ih

/-! ### Replays are made of moves -/

/-- To finalize a test is to close its scope and to write it. -/
theorem moves_finalize (st : Standing) : Moves st st.finalize := by
  cases hc : st.current with
  | none =>
    simp only [finalize, hc]
    exact .refl
  | some c =>
    simp only [finalize, hc]
    exact .tail (.single (.closeScope st)) (.writeTest _)

/-- Each step that is closed is one change of the test. -/
private theorem moves_closeSteps (status : Status) (stop : Int) (n : Nat) (st : Standing) :
    Moves st (st.closeSteps status stop n) := by
  induction n generalizing st with
  | zero => exact .refl
  | succ n ih =>
    exact .head (.changeTest st (.inr rfl) (OpenTest.keepsHandle_closeStep status stop none)) (ih _)

/-- Closing steps leaves the test open, and does not end it. -/
theorem current_closeSteps {c : Current} (hc : st.current = some c) (status : Status) (stop : Int)
    (n : Nat) :
    (st.closeSteps status stop n).current = some ⟨c.test.closeSteps status stop n, c.ended⟩ := by
  induction n generalizing st c with
  | zero => exact hc
  | succ n ih => exact ih (current_changeTest hc .applyMessages _)

/-- An entry without an open test is passed over. -/
theorem applyEntry_of_current (hc : st.current = none) (e : TestEntry) : st.applyEntry e = st := by
  cases e <;> simp only [applyEntry, changeTest, Standing.attach, hc]

/-- A test that is not ended is the one that is open. -/
theorem current_of_unended (hunended : st.unended ≠ []) : ∃ t, st.current = some ⟨t, false⟩ := by
  rcases hc : st.current with _ | ⟨t, _ | _⟩
  · simp [unended, hc] at hunended
  · exact ⟨t, rfl⟩
  · simp [unended, hc] at hunended

/-- The ending of a test that is not open, or has ended already, is passed over. -/
theorem endTest_of_unended (hunended : st.unended = []) (e : TestEnding) : st.endTest e = st := by
  rcases hc : st.current with _ | ⟨t, _ | _⟩
  · simp only [endTest, hc]
  · simp [unended, hc] at hunended
  · simp only [endTest, hc]

/-- The end of a test that is not open does not even make another one final. -/
theorem dispatch_testEnd_of_unended (hunended : st.unended = []) (isAfterAll : String → Bool)
    (isLast : Bool) (e : TestEnding) : st.dispatch isAfterAll isLast (.testEnd e) = st := by
  simp [dispatch, finalizes, hunended, step, endTest_of_unended]

/-- The end of a test closes its steps, records the outcome and stops it. -/
theorem moves_endTest (e : TestEnding) (st : Standing) : Moves st (st.endTest e) := by
  by_cases hunended : st.unended = []
  · rw [endTest_of_unended hunended]
  · obtain ⟨t, hc⟩ := current_of_unended hunended
    simp only [endTest, hc]
    have hclose := moves_closeSteps e.status e.stop t.openSteps.length st
    have hc' := current_closeSteps hc e.status e.stop t.openSteps.length
    refine (hclose.tail (.changeTest _ (.inl rfl) ?_)).tail
      (.stopTest _ _ (current_changeTest hc' _ _) rfl)
    exact OpenTest.keepsHandle_update fun _ => rfl

/-- An entry of a test is one move. -/
private theorem moves_applyEntry (e : TestEntry) (st : Standing) : Moves st (st.applyEntry e) := by
  cases e with
  | stepStart name start =>
    exact .single (.changeTest st (.inr rfl) (OpenTest.keepsHandle_openStep name start))
  | stepStop status stop details =>
    exact .single (.changeTest st (.inr rfl) (OpenTest.keepsHandle_closeStep status stop details))
  | metadata labels parameters =>
    exact .single (.changeTest st (.inr rfl) (OpenTest.keepsHandle_describe labels parameters))
  | attachment file => exact .single (.attach st file)

/-- A scope that is closed leaves the open test alone. -/
theorem current_closeScope (st : Standing) : st.closeScope.current = st.current := by
  cases hc : st.scopes <;> simp [closeScope, hc]

/-- After a test has been finalized none is open. -/
theorem current_finalize (st : Standing) : st.finalize.current = none := by
  cases hc : st.current with
  | none => simp only [finalize, hc]
  | some c => simp only [finalize, writeTest, hc, current_closeScope]

/-- A message is made of moves, but for what it makes final afterwards. -/
theorem moves_step (isAfterAll : String → Bool) (m : Message) (st : Standing) :
    Moves st (st.step isAfterAll m) := by
  cases m with
  -- a start finalizes the open test first
  | suiteStart name isFeature => exact (moves_finalize st).tail (.openScope _)
  | suiteEnd => exact .single (.closeScope st)
  -- a test needs the place of the one before it
  | testStart name start =>
    exact ((moves_finalize st).tail (.openScope _)).tail
      (.beginTest name start (current_finalize st))
  | testInfo fullName =>
    simp only [step, nameTest]
    split
    · exact .single (.changeTest st (.inl rfl) (OpenTest.keepsHandle_update fun _ => rfl))
    · exact .refl
  | testEnd e => exact moves_endTest e st
  | hookStart name kind start =>
    simp only [step, startHook]
    split
    · exact (moves_finalize st).tail (.startFixture _ kind name start)
    · exact .single (.startFixture st kind name start)
  -- the end is an update and then a stop
  | hookEnd e => exact .tail (.single (.updateFixture st _)) (.stopFixture _ _ _)
  | entry e => exact moves_applyEntry e st

/-- A message is made of moves, with what it makes final. -/
theorem moves_dispatch (isAfterAll : String → Bool) (isLast : Bool) (m : Message) (st : Standing) :
    Moves st (st.dispatch isAfterAll isLast m) := by
  simp only [dispatch]
  split
  · exact (moves_step isAfterAll m st).trans (moves_finalize _)
  · exact moves_step isAfterAll m st

/-- A log is made of moves. -/
theorem moves_dispatchAll (isAfterAll : String → Bool) (log : List Message) (st : Standing) :
    Moves st (st.dispatchAll isAfterAll log) := by
  induction log generalizing st with
  | nil => exact .refl
  | cons m rest ih => exact (moves_dispatch isAfterAll rest.isEmpty m st).trans (ih _)

/-- Each fixture that is stopped in the end is one move. -/
theorem moves_stopFixtures (hs : List Handle) (st : Standing) : Moves st (st.stopFixtures hs) := by
  induction hs generalizing st with
  | nil => exact .refl
  | cons h rest ih => exact .head (.stopFixture st none none) (ih _)

/-- Each scope that is closed in the end is one move. -/
theorem moves_closeScopes (scopes : List Scope) (st : Standing) :
    Moves st (st.closeScopes scopes) := by
  induction scopes generalizing st with
  | nil => exact .refl
  | cons s rest ih => exact .head (.closeScope st) (ih _)

/-- What is still open at the end of a log is closed by moves. -/
theorem moves_settle (st : Standing) : Moves st st.settle :=
  ((moves_stopFixtures _ st).trans (moves_finalize _)).trans (moves_closeScopes _ _)

end Standing

end Chronicle
