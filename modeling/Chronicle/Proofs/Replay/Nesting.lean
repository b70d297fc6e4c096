import Chronicle.Proofs.Replay.Log
import Chronicle.Proofs.Replay.Window
import Mathlib.Data.List.Induction

/-!
# How scopes nest

A `Mark` is what is left of a message when only starts of suites and tests and ends of suites count,
with the handles under which they open something. `openSuites` matches these like parentheses, and
`childrenOf` reads off the children of a scope.

A replay closes scopes in another order than that: the end of a suite writes the scope of the test
that is still open, and the finalization of the test then writes the scope of the suite. At the next
start it comes out even. `Standing.suites` are the open scopes without the one too many, and
`Standing.Charts` is the invariant.
-/
namespace Chronicle

/-! ### Plain nesting -/

/-- A message that starts a suite or a test, or ends a suite, with the handles of what it opens. -/
inductive Mark where
  | suite (scope : Handle)
  | suiteEnd
  | test (scope test : Handle)
  deriving DecidableEq, Repr, Inhabited

namespace Mark

/-- The kind of the message. -/
def kind : Mark → MessageKind
  | .suite _ => .suiteStart
  | .suiteEnd => .suiteEnd
  | .test .. => .testStart

/-- The scope that is opened. -/
def scope? : Mark → Option Handle
  | .suite scope => some scope
  | .suiteEnd => none
  | .test scope _ => some scope

/-- The test that is opened. -/
def test? : Mark → Option Handle
  | .suite _ | .suiteEnd => none
  | .test _ t => some t

/-- The open suites after a mark, the innermost first. -/
def next (suites : List Handle) : Mark → List Handle
  | .suite scope => scope :: suites
  | .suiteEnd => suites.tail
  | .test .. => suites

end Mark

/-- Whether messages of a kind have a mark. -/
def MessageKind.isMarked : MessageKind → Bool
  | .suiteStart | .suiteEnd | .testStart => true
  | _ => false

/-- The scopes that are opened, in order. -/
def scopesOf (marks : List Mark) : List Handle :=
  marks.filterMap (·.scope?)

/-- The tests that are opened, in order. -/
def testsOf (marks : List Mark) : List Handle :=
  marks.filterMap (·.test?)

/-- The suites that are open after some marks, the innermost first. -/
def openSuites (marks : List Mark) : List Handle :=
  marks.foldl Mark.next []

/-- Each test, with its own scope and those of the suites that are open at its start. -/
def nestings (suites : List Handle) : List Mark → List (Handle × List Handle)
  | [] => []
  | .test scope test :: rest => (test, scope :: suites) :: nestings suites rest
  | m :: rest => nestings (m.next suites) rest

/-- The tests that are started inside a scope, in order. -/
def childrenOf (scope : Handle) (marks : List Mark) : List Handle :=
  ((nestings [] marks).filter (scope ∈ ·.2)).map (·.1)

/-- The handles that an operation is called with, in order. -/
def calledWith (op : Operation) (calls : List (Operation × Handle)) : List Handle :=
  (calls.filter (·.1 = op)).map (·.2)

/-- The open suites after one more mark. -/
theorem openSuites_snoc (marks : List Mark) (m : Mark) :
    openSuites (marks ++ [m]) = m.next (openSuites marks) := by
  simp only [openSuites, List.foldl_append, List.foldl_cons, List.foldl_nil]

/-- Tests of a later part are nested in the suites that the earlier part has left open. -/
theorem nestings_append (suites : List Handle) (marks marks' : List Mark) :
    nestings suites (marks ++ marks')
      = nestings suites marks ++ nestings (marks.foldl Mark.next suites) marks' := by
  induction marks generalizing suites with
  | nil => rfl
  | cons m rest ih => cases m <;> simp [nestings, ih, Mark.next]

/-- One more mark adds its test to the children of the suites around it. -/
private theorem childrenOf_snoc (scope : Handle) (marks : List Mark) (m : Mark) :
    childrenOf scope (marks ++ [m]) = childrenOf scope marks
      ++ ((nestings (openSuites marks) [m]).filter (scope ∈ ·.2)).map (·.1) := by
  simp only [childrenOf, nestings_append, List.filter_append, List.map_append, openSuites]

/-- A test is nested in scopes that have been opened. -/
private theorem mem_scopes_of_mem_nestings {suites : List Handle} {marks : List Mark}
    {n : Handle × List Handle} {scope : Handle} (hn : n ∈ nestings suites marks)
    (hscope : scope ∈ n.2) : scope ∈ suites ∨ scope ∈ scopesOf marks := by
  induction marks generalizing suites with
  | nil => cases hn
  | cons m rest ih =>
    cases m with
    -- a suite is open from here on
    | suite s =>
      rcases ih hn with hmem | hmem
      · rcases List.mem_cons.1 hmem with rfl | hmem
        · exact .inr List.mem_cons_self
        · exact .inl hmem
      · exact .inr (List.mem_cons_of_mem _ hmem)
    -- an end leaves fewer suites open
    | suiteEnd => exact (ih hn).imp_left List.mem_of_mem_tail
    -- a test is nested in its own scope and in the suites that are open
    | test own test =>
      rcases List.mem_cons.1 hn with rfl | hn
      · rcases List.mem_cons.1 hscope with rfl | hmem
        · exact .inr List.mem_cons_self
        · exact .inl hmem
      · exact (ih hn).imp_right (List.mem_cons_of_mem _)

/-- A scope that has not been opened has no children. -/
private theorem childrenOf_of_not_mem {scope : Handle} {marks : List Mark}
    (hs : scope ∉ scopesOf marks) :
    childrenOf scope marks = [] := by
  simp only [childrenOf, List.map_eq_nil_iff, List.filter_eq_nil_iff, decide_eq_true_eq]
  intro n hn hmem
  exact (mem_scopes_of_mem_nestings hn hmem).elim List.not_mem_nil hs

/-- A suite that is open has been started. -/
private theorem mem_scopes_of_mem_openSuites {marks : List Mark} {scope : Handle}
    (hs : scope ∈ openSuites marks) : scope ∈ scopesOf marks := by
  -- by induction from the end, where suites are opened and closed
  induction marks using List.reverseRecOn with
  | nil => cases hs
  | append_singleton marks m ih =>
    rw [openSuites_snoc] at hs
    rw [scopesOf, List.filterMap_append, List.mem_append]
    cases m with
    | suite s =>
      rcases List.mem_cons.1 hs with rfl | hs
      · exact .inr List.mem_cons_self
      · exact .inl (ih hs)
    | suiteEnd => exact .inl (ih (List.mem_of_mem_tail hs))
    | test own t => exact .inl (ih hs)

/-- Every test is nested once, in the order of their starts. -/
theorem map_fst_nestings (suites : List Handle) (marks : List Mark) :
    (nestings suites marks).map (·.1) = testsOf marks := by
  induction marks generalizing suites with
  | nil => rfl
  | cons m rest ih =>
    cases m with
    | suite scope => exact ih (scope :: suites)
    | suiteEnd => exact ih suites.tail
    | test scope t => exact congrArg (t :: ·) (ih suites)

/-- The children of a scope around the start of a test. -/
private theorem childrenOf_split (h : Handle) (before after : List Mark) (scope test : Handle) :
    childrenOf h (before ++ .test scope test :: after)
      = childrenOf h before ++ (if h ∈ scope :: openSuites before then [test] else [])
        ++ ((nestings (openSuites before) after).filter (h ∈ ·.2)).map (·.1) := by
  have hsplit : before ++ Mark.test scope test :: after
      = (before ++ [.test scope test]) ++ after := by simp
  have hsuites : openSuites (before ++ [.test scope test]) = openSuites before :=
    openSuites_snoc before _
  rw [hsplit, childrenOf, nestings_append, List.filter_append, List.map_append]
  congr 1
  · refine (childrenOf_snoc h before _).trans (congrArg _ ?_)
    by_cases hmem : h ∈ scope :: openSuites before <;> simp [nestings, hmem]
  · exact congrArg (fun suites => ((nestings suites after).filter (h ∈ ·.2)).map (·.1)) hsuites

/-- The scope of a test has it as its only child. -/
private theorem childrenOf_own {marks : List Mark} (hnodup : (scopesOf marks).Nodup)
    {scope test : Handle} (hm : .test scope test ∈ marks) : childrenOf scope marks = [test] := by
  obtain ⟨before, after, rfl⟩ := List.append_of_mem hm
  simp only [scopesOf, List.filterMap_append, List.filterMap_cons, Mark.scope?] at hnodup
  obtain ⟨hbefore, hafter⟩ := List.nodup_cons.1 (List.perm_middle.nodup_iff.1 hnodup) |>.imp_left
    fun hmem => not_or.1 (mt List.mem_append.2 hmem)
  have hsuites : scope ∉ openSuites before := mt mem_scopes_of_mem_openSuites hbefore.1
  -- nothing after the test is nested in a scope that was opened before and is not a suite
  have hrest : (nestings (openSuites before) after).filter (scope ∈ ·.2) = [] := by
    rw [List.filter_eq_nil_iff]
    intro n hn hmem
    exact (mem_scopes_of_mem_nestings hn (of_decide_eq_true hmem)).elim hsuites hbefore.2
  rw [childrenOf_split, childrenOf_of_not_mem hbefore.1, hrest, if_pos List.mem_cons_self]
  rfl

/-- The scopes that list a test are its own and those of the suites that are open at its start. -/
private theorem mem_childrenOf_iff {before after : List Mark} {scope test : Handle}
    (hnodup : (testsOf (before ++ .test scope test :: after)).Nodup) (h : Handle) :
    test ∈ childrenOf h (before ++ .test scope test :: after)
      ↔ h = scope ∨ h ∈ openSuites before := by
  simp only [testsOf, List.filterMap_append, List.filterMap_cons, Mark.test?] at hnodup
  obtain ⟨hnew, -⟩ := List.nodup_cons.1 (List.perm_middle.nodup_iff.1 hnodup)
  obtain ⟨hbefore, hafter⟩ := not_or.1 (mt List.mem_append.2 hnew)
  -- no other test has this handle
  have hother : ∀ suites marks, test ∉ testsOf marks →
      test ∉ ((nestings suites marks).filter (h ∈ ·.2)).map (·.1) := fun suites marks hmarks hmem =>
    hmarks (map_fst_nestings suites marks ▸ List.map_subset _ (List.filter_subset_self _) hmem)
  rw [childrenOf_split, List.mem_append, List.mem_append, ← List.mem_cons]
  constructor
  · rintro ((hmem | hmem) | hmem)
    · exact absurd hmem (hother _ _ hbefore)
    · by_contra hnot
      rw [if_neg hnot] at hmem
      exact List.not_mem_nil hmem
    · exact absurd hmem (hother _ _ hafter)
  -- the test itself stands between what comes before and after it
  · intro hmem
    rw [if_pos hmem]
    exact .inl (.inr List.mem_cons_self)

/-- The second end of a suite matches nothing. -/
example : childrenOf ⟨"suite"⟩ [.suite ⟨"suite"⟩, .test ⟨"own"⟩ ⟨"a"⟩, .suiteEnd, .suiteEnd,
    .test ⟨"other"⟩ ⟨"b"⟩] = [⟨"a"⟩] := by decide

/-! ### Handles that have been drawn -/

/-- The handles are different, and come from the first `n` draws. -/
structure Drawn (hs : List Handle) (n : Nat) : Prop where
  nodup : hs.Nodup
  isBefore : ∀ h ∈ hs, h.IsBefore n

namespace Drawn

variable {hs : List Handle} {n : Nat}

/-- Handles that are drawn stay drawn. -/
theorem mono (hd : Drawn hs n) {n' : Nat} (hle : n ≤ n') : Drawn hs n' :=
  ⟨hd.nodup, fun h hmem => (hd.isBefore h hmem).mono hle⟩

/-- The next handle is not among those that are drawn. -/
private theorem not_mem (hd : Drawn hs n) : Handle.drawn n ∉ hs := fun hmem =>
  Handle.not_isBefore_drawn n (hd.isBefore _ hmem)

/-- One more draw. -/
theorem snoc (hd : Drawn hs n) : Drawn (hs ++ [Handle.drawn n]) (n + 1) := by
  constructor
  · have hperm : (hs ++ [Handle.drawn n]).Perm (Handle.drawn n :: hs) :=
      List.perm_append_singleton _ _
    exact hperm.nodup_iff.2 (List.nodup_cons.2 ⟨hd.not_mem, hd.nodup⟩)
  · intro h hmem
    rcases List.mem_append.1 hmem with hmem | hmem
    · exact (hd.isBefore h hmem).mono (by omega)
    · exact ⟨n, by omega, List.mem_singleton.1 hmem⟩

end Drawn

namespace Standing

variable {st st' : Standing} {isAfterAll : String → Bool}

/-! ### Scopes and their children -/

/-- The scopes of the suites that are open. While a test is open, the innermost open scope is one
that the finalization of the test will close. -/
def suites (st : Standing) : List Handle :=
  if st.current.isSome then (st.scopes.map (·.handle)).tail else st.scopes.map (·.handle)

/-- All scopes, open or written, each with its children. -/
def families (st : Standing) : List (Handle × List Handle) :=
  (st.scopes ++ st.writtenScopes).map fun s => (s.handle, s.children)

/-- All tests, written or open, in the order in which they are written. -/
def tests (st : Standing) : List Handle :=
  st.writtenTests.map (·.handle) ++ st.current.toList.map (·.handle)

/-- The standing is what the marks tell. -/
structure Charts (marks : List Mark) (st : Standing) : Prop where
  suites : st.suites = openSuites marks
  families : st.families.Perm ((scopesOf marks).map fun h => (h, childrenOf h marks))
  tests : st.tests = testsOf marks
  scopesStarted : calledWith .startScope st.calls = scopesOf marks
  testsStarted : calledWith .startTest st.calls = testsOf marks
  scopesDrawn : Drawn (scopesOf marks) st.drawn
  testsDrawn : Drawn (testsOf marks) st.drawn

/-- The two standings have the same scopes and tests, and have started the same ones. -/
structure Alike (st st' : Standing) : Prop where
  families : st'.families.Perm st.families
  tests : st'.tests = st.tests
  scopesStarted : calledWith .startScope st'.calls = calledWith .startScope st.calls
  testsStarted : calledWith .startTest st'.calls = calledWith .startTest st.calls
  drawn : st.drawn ≤ st'.drawn

/-- A standing is like itself. -/
theorem Alike.refl (st : Standing) : st.Alike st :=
  ⟨.refl _, rfl, rfl, rfl, Nat.le_refl _⟩

/-- Likeness goes on from one standing to the next. -/
theorem Alike.trans {st'' : Standing} (h : st.Alike st') (h' : st'.Alike st'') : st.Alike st'' :=
  ⟨h'.families.trans h.families, h'.tests.trans h.tests, h'.scopesStarted.trans h.scopesStarted,
    h'.testsStarted.trans h.testsStarted, h.drawn.trans h'.drawn⟩

/-- The two standings have the same open suites besides. -/
structure Still (st st' : Standing) : Prop extends Alike st st' where
  suites : st'.suites = st.suites

/-- A standing keeps still by itself. -/
theorem Still.refl (st : Standing) : st.Still st :=
  ⟨.refl st, rfl⟩

/-- What keeps still twice keeps still. -/
theorem Still.trans {st'' : Standing} (h : st.Still st') (h' : st'.Still st'') : st.Still st'' :=
  ⟨h.toAlike.trans h'.toAlike, h'.suites.trans h.suites⟩

/-- The chart of a standing holds on as long as the standing keeps still. -/
private theorem Charts.still {marks : List Mark} (hc : st.Charts marks) (h : st.Still st') :
    st'.Charts marks :=
  { suites := h.suites.trans hc.suites
    families := h.families.trans hc.families
    tests := h.tests.trans hc.tests
    scopesStarted := h.scopesStarted.trans hc.scopesStarted
    testsStarted := h.testsStarted.trans hc.testsStarted
    scopesDrawn := hc.scopesDrawn.mono h.drawn
    testsDrawn := hc.testsDrawn.mono h.drawn }

/-- Closing a scope moves it from the open to the written ones, and its family with it. -/
private theorem alike_closeScope (st : Standing) : st.Alike st.closeScope := by
  cases hs : st.scopes with
  -- an end with no scope open does nothing
  | nil =>
    simp only [closeScope, hs]
    exact .refl st
  | cons s rest =>
    constructor
    -- the scope moves from the open to the written ones
    · simp only [closeScope, hs, families]
      refine List.Perm.map _ ?_
      rw [← List.append_assoc]
      exact List.perm_append_singleton s _
    all_goals simp [closeScope, hs, tests, calledWith]

/-- Writing the test moves it from the open to the written ones. -/
private theorem alike_writeTest (st : Standing) : st.Alike st.writeTest := by
  cases hc : st.current with
  | none =>
    simp only [writeTest, hc]
    exact .refl st
  | some c =>
    constructor <;>
      simp [writeTest, hc, families, tests, calledWith, Current.handle, OpenTest.handle_snapshot]

/-- Of the suites, closing a scope takes the innermost. -/
private theorem suites_closeScope (st : Standing) : st.closeScope.suites = st.suites.tail := by
  cases hs : st.scopes with
  | nil => cases hc : st.current <;> simp [closeScope, suites, hs, hc]
  | cons s rest => cases hc : st.current <;> simp [closeScope, suites, hs, hc]

/-- When a test is finalized, the scope that is closed is the one too many. -/
private theorem handle_scopes_finalize (st : Standing) :
    st.finalize.scopes.map (·.handle) = st.suites := by
  cases hc : st.current with
  | none => simp [finalize, suites, hc]
  | some c =>
    have hclosed := current_closeScope st
    cases hs : st.scopes <;>
      simp [finalize, writeTest, closeScope, suites, hc, hs]

/-- The finalization of a test writes the scope that was one too many. -/
theorem still_finalize (st : Standing) : st.Still st.finalize := by
  have hsuites : st.finalize.suites = st.suites := by
    rw [suites, current_finalize]
    exact handle_scopes_finalize st
  refine ⟨?_, hsuites⟩
  -- without a test nothing happens; with one, its scope is closed before it is written
  cases hc : st.current with
  | none =>
    simp only [finalize, hc]
    exact .refl st
  | some c =>
    simp only [finalize, hc]
    exact (alike_closeScope st).trans (alike_writeTest _)

/-- A change of the test that keeps its handle starts and closes nothing. -/
private theorem still_changeTest {op : Operation} {f : OpenTest → OpenTest}
    (hf : OpenTest.KeepsHandle f) (hop : op = .updateTest ∨ op = .applyMessages) (st : Standing) :
    st.Still (st.changeTest op f) := by
  cases hc : st.current with
  | none =>
    simp only [changeTest, hc]
    exact .refl st
  | some c =>
    have hhandle := hf c.test
    refine ⟨⟨?_, ?_, ?_, ?_, ?_⟩, ?_⟩ <;> rcases hop with rfl | rfl <;>
      simp [changeTest, hc, families, tests, calledWith, suites, Current.handle, hhandle]

/-- An attachment starts and closes nothing that is charted. -/
private theorem still_attach (file : Attachment) (st : Standing) : st.Still (st.attach file) := by
  cases hc : st.current with
  | none =>
    simp only [attach, hc]
    exact .refl st
  | some c =>
    have hhandle := fun ref => OpenTest.keepsHandle_attach ref c.test
    refine ⟨⟨?_, ?_, ?_, ?_, ?_⟩, ?_⟩ <;>
      simp [attach, hc, families, tests, calledWith, suites, Current.handle, hhandle]

/-- Stopping the test closes no scope. -/
private theorem still_stopTest (stop duration : Option Int) (st : Standing) :
    st.Still (st.stopTest stop duration) := by
  cases hc : st.current with
  | none =>
    simp only [stopTest, hc]
    exact .refl st
  | some c =>
    refine ⟨⟨?_, ?_, ?_, ?_, ?_⟩, ?_⟩ <;>
      simp [stopTest, hc, families, tests, calledWith, suites, Current.handle, OpenTest.update,
        TestResult.stopped]

/-- A fixture that starts opens no scope. -/
private theorem still_startFixture (kind : HookKind) (name : String) (start : Int) (st : Standing) :
    st.Still (st.startFixture kind name start) := by
  cases hs : st.scopes with
  | nil =>
    simp only [startFixture, hs]
    exact .refl st
  | cons s rest =>
    refine ⟨⟨?_, ?_, ?_, ?_, ?_⟩, ?_⟩ <;> cases kind <;>
      simp [startFixture, hs, families, tests, calledWith, suites, Scope.addFixture]

/-- A change of a fixture opens and closes no scope. -/
private theorem still_updateFixture (f : FixtureResult → FixtureResult) (st : Standing) :
    st.Still (st.updateFixture f) := by
  cases hr : st.running with
  | nil =>
    simp only [updateFixture, hr]
    exact .refl st
  | cons h rest =>
    refine ⟨⟨?_, ?_, ?_, ?_, ?_⟩, ?_⟩ <;>
      simp [updateFixture, hr, families, tests, calledWith, suites]

/-- A fixture that stops closes no scope. -/
private theorem still_stopFixture (stop duration : Option Int) (st : Standing) :
    st.Still (st.stopFixture stop duration) := by
  cases hr : st.running with
  | nil =>
    simp only [stopFixture, hr]
    exact .refl st
  | cons h rest =>
    refine ⟨⟨?_, ?_, ?_, ?_, ?_⟩, ?_⟩ <;>
      simp [stopFixture, hr, families, tests, calledWith, suites]

/-- Steps are closed without opening or closing a scope. -/
private theorem still_closeSteps (status : Status) (stop : Int) (n : Nat) (st : Standing) :
    st.Still (st.closeSteps status stop n) := by
  induction n generalizing st with
  | zero => exact .refl st
  | succ n ih =>
    have hclose := OpenTest.keepsHandle_closeStep status stop none
    exact (still_changeTest hclose (.inr rfl) st).trans (ih _)

/-- The end of a test closes its steps and stops it; its scope stays open until it is finalized. -/
private theorem still_endTest (e : TestEnding) (st : Standing) : st.Still (st.endTest e) := by
  simp only [endTest]
  split
  · have hended : OpenTest.KeepsHandle (·.update (·.ended e)) :=
      OpenTest.keepsHandle_update fun _ => rfl
    exact ((still_closeSteps _ _ _ st).trans (still_changeTest hended (.inl rfl) _)).trans
      (still_stopTest _ _ _)
  · exact .refl st

/-- A message without a mark changes nothing about scopes and tests. -/
private theorem still_step {m : Message} (hm : m.kind.isMarked = false) (st : Standing) :
    st.Still (st.step isAfterAll m) := by
  cases m with
  | suiteStart name isFeature => cases hm
  -- the messages with a mark are left out
  | suiteEnd => cases hm
  | testStart name start => cases hm
  | testInfo fullName =>
    simp only [step, nameTest]
    split
    · have hname : OpenTest.KeepsHandle
          (·.update fun r => { r with fullName := some fullName }) :=
        OpenTest.keepsHandle_update fun _ => rfl
      exact still_changeTest hname (.inl rfl) st
    · exact .refl st
  | testEnd e => exact still_endTest e st
  -- a fixture is no child of its scope
  | hookStart name kind start =>
    simp only [step, startHook]
    split
    · exact (still_finalize st).trans (still_startFixture kind name start _)
    · exact still_startFixture kind name start st
  | hookEnd e => exact (still_updateFixture _ st).trans (still_stopFixture _ _ _)
  -- each entry changes the test and keeps its handle
  | entry e =>
    cases e with
    | stepStart name start =>
      exact still_changeTest (OpenTest.keepsHandle_openStep name start) (.inr rfl) st
    | stepStop status stop details =>
      exact still_changeTest (OpenTest.keepsHandle_closeStep status stop details) (.inr rfl) st
    | metadata labels parameters =>
      exact still_changeTest (OpenTest.keepsHandle_describe labels parameters) (.inr rfl) st
    | attachment file => exact still_attach file st

/-! ### Marks one after another -/

/-- Without a test, the open scopes are the open suites. -/
private theorem Charts.handle_scopes {marks : List Mark} (hc : st.Charts marks)
    (hnone : st.current = none) : st.scopes.map (·.handle) = openSuites marks := by
  rw [← hc.suites, Standing.suites, hnone]
  rfl

/-- The start of a suite, when no test is open. -/
theorem Charts.suiteStart {marks : List Mark} (hc : st.Charts marks) (hnone : st.current = none) :
    st.openScope.Charts (marks ++ [.suite st.next]) := by
  have hscopes : scopesOf (marks ++ [.suite st.next]) = scopesOf marks ++ [st.next] := by
    simp [scopesOf, Mark.scope?]
  have htests : testsOf (marks ++ [.suite st.next]) = testsOf marks := by
    simp [testsOf, Mark.test?]
  -- no test starts with the mark, so no scope gets a child
  have hchildren : ∀ h, childrenOf h (marks ++ [.suite st.next]) = childrenOf h marks := fun h => by
    simp [childrenOf_snoc, nestings]
  refine ⟨?_, ?_, ?_, ?_, ?_, ?_, ?_⟩
  -- the new suite is the innermost one
  · rw [openSuites_snoc, Mark.next, ← hc.handle_scopes hnone, Standing.suites]
    simp [openScope, hnone]
  · -- the new scope has a new handle, so it has no children yet
    have hempty := childrenOf_of_not_mem hc.scopesDrawn.not_mem
    simp only [hscopes, hchildren, List.map_append, List.map_cons, List.map_nil]
    rw [show st.next = .drawn st.drawn from rfl, hempty]
    exact (hc.families.cons (st.next, [])).trans (List.perm_append_singleton _ _).symm
  · rw [htests, ← hc.tests]
    rfl
  -- one scope more has been started
  · rw [hscopes, ← hc.scopesStarted]
    simp [calledWith, openScope]
  · rw [htests, ← hc.testsStarted]
    simp [calledWith, openScope]
  -- its handle is the last one drawn
  · rw [hscopes]
    exact hc.scopesDrawn.snoc
  · rw [htests]
    exact hc.testsDrawn.mono (Nat.le_succ _)

/-- A test that is opened becomes the last child of every open scope. -/
private theorem families_beginTest (hnodup : (st.families.map (·.1)).Nodup) (name : String)
    (start : Int) :
    (st.beginTest name start).families = st.families.map fun f =>
      if f.1 ∈ st.scopes.map (·.handle) then (f.1, f.2 ++ [st.next]) else f := by
  simp only [families, List.map_map, List.map_append, Function.comp_def] at hnodup
  have hdisjoint := (List.nodup_append.1 hnodup).2.2
  simp only [families, beginTest, List.map_append, List.map_map]
  congr 1
  · refine List.map_congr_left fun s hs => ?_
    exact (if_pos (List.mem_map_of_mem hs)).symm
  · refine List.map_congr_left fun s hs => (if_neg fun hmem => ?_).symm
    exact hdisjoint _ hmem _ (List.mem_map_of_mem hs) rfl

/-- The start of a test, when no test is open. -/
theorem Charts.testStart {marks : List Mark} (hc : st.Charts marks) (hnone : st.current = none)
    (name : String) (start : Int) :
    (st.openScope.beginTest name start).Charts
      (marks ++ [.test st.next st.openScope.next]) := by
  -- opening the own scope of the test is like opening a suite
  have hopen := hc.suiteStart hnone
  have hscopes : scopesOf (marks ++ [.test st.next st.openScope.next])
      = scopesOf (marks ++ [.suite st.next]) := by
    simp [scopesOf, Mark.scope?]
  have htests : testsOf (marks ++ [.test st.next st.openScope.next])
      = testsOf (marks ++ [.suite st.next]) ++ [st.openScope.next] := by
    simp [testsOf, Mark.test?]
  -- the scopes that are open now
  have hheld : st.openScope.scopes.map (·.handle) = st.next :: openSuites marks :=
    congrArg (st.next :: ·) (hc.handle_scopes hnone)
  refine ⟨?_, ?_, ?_, ?_, ?_, ?_, ?_⟩
  -- the own scope is no suite
  · rw [openSuites_snoc, Mark.next, ← hc.handle_scopes hnone, Standing.suites]
    simp [beginTest, openScope, Function.comp_def]
  · -- the test joins the scopes that are open, which are its own and those of the open suites
    have hhandles := hopen.families.map (·.1)
    simp only [List.map_map, Function.comp_def, List.map_id'] at hhandles
    have hnodup := hhandles.nodup_iff.2 hopen.scopesDrawn.nodup
    rw [families_beginTest hnodup name start, hheld, hscopes]
    refine (hopen.families.map _).trans (.of_eq ?_)
    rw [List.map_map]
    refine List.map_congr_left fun h _ => ?_
    simp only [Function.comp_def, childrenOf_snoc, nestings]
    by_cases hmem : h ∈ st.next :: openSuites marks <;> simp [hmem]
  · rw [htests, ← hopen.tests]
    simp [Standing.tests, beginTest, openScope, hnone, Current.handle]
  · rw [hscopes, ← hopen.scopesStarted]
    simp [calledWith, beginTest]
  -- one test more has been started
  · rw [htests, ← hopen.testsStarted]
    simp [calledWith, beginTest]
  · rw [hscopes]
    exact hopen.scopesDrawn.mono (Nat.le_succ _)
  · rw [htests]
    exact hopen.testsDrawn.snoc

/-- The end of a suite, whether or not a test is open. -/
theorem Charts.suiteEnd {marks : List Mark} (hc : st.Charts marks) :
    st.closeScope.Charts (marks ++ [.suiteEnd]) := by
  have hscopes : scopesOf (marks ++ [.suiteEnd]) = scopesOf marks := by simp [scopesOf, Mark.scope?]
  have htests : testsOf (marks ++ [.suiteEnd]) = testsOf marks := by simp [testsOf, Mark.test?]
  have hchildren : ∀ h, childrenOf h (marks ++ [.suiteEnd]) = childrenOf h marks := fun h => by
    simp [childrenOf_snoc, nestings]
  have h := alike_closeScope st
  -- only the open suites change: an end starts nothing and has no children
  refine ⟨?_, ?_, ?_, ?_, ?_, ?_, ?_⟩
  · rw [openSuites_snoc, Mark.next, suites_closeScope, hc.suites]
  · simp only [hscopes, hchildren]
    exact h.families.trans hc.families
  · rw [htests, h.tests, hc.tests]
  · rw [hscopes, h.scopesStarted, hc.scopesStarted]
  · rw [htests, h.testsStarted, hc.testsStarted]
  · rw [hscopes]
    exact hc.scopesDrawn.mono h.drawn
  · rw [htests]
    exact hc.testsDrawn.mono h.drawn

/-- Nothing is charted at the start. -/
private theorem charts_initial (b : Backend) : (initial b).Charts [] :=
  ⟨rfl, .refl _, rfl, rfl, rfl, ⟨.nil, nofun⟩, ⟨.nil, nofun⟩⟩

/-- After any messages there are marks that tell the standing. -/
theorem exists_charts (b : Backend) (isAfterAll : String → Bool) (log : List Message) :
    ∃ marks, ((initial b).steps isAfterAll log).Charts marks
      ∧ marks.map (·.kind) = (log.map (·.kind)).filter (·.isMarked) := by
  induction log using List.reverseRecOn with
  | nil => exact ⟨[], charts_initial b, rfl⟩
  -- the log grows at its end, and the chart by the mark of the message, if it has one
  | append_singleton log m ih =>
    obtain ⟨marks, hcharts, hkinds⟩ := ih
    rw [steps_snoc]
    -- a start first finalizes the open test, after which the open scopes are those of the suites
    generalize (initial b).steps isAfterAll log = st at hcharts
    have hfinal := hcharts.still (still_finalize st)
    have hnone := current_finalize st
    cases hm : m.kind.isMarked with
    | false => exact ⟨marks, hcharts.still (still_step hm st), by simp [hkinds, hm]⟩
    | true =>
      have hsnoc : ∀ mark : Mark, mark.kind = m.kind → (marks ++ [mark]).map (·.kind)
          = ((log ++ [m]).map (·.kind)).filter (·.isMarked) := fun mark hk => by
        simp [hkinds, hm, hk]
      cases m with
      | suiteStart name isFeature => exact ⟨_, hfinal.suiteStart hnone, hsnoc _ rfl⟩
      | suiteEnd => exact ⟨_, hcharts.suiteEnd, hsnoc _ rfl⟩
      | testStart name start => exact ⟨_, hfinal.testStart hnone name start, hsnoc _ rfl⟩
      | testInfo fullName => cases hm
      | testEnd e => cases hm
      | hookStart name kind start => cases hm
      | hookEnd e => cases hm
      | entry e => cases e <;> cases hm

/-- Closing scopes one after another only moves them to the written ones. -/
private theorem alike_closeScopes (scopes : List Scope) (st : Standing) :
    st.Alike (st.closeScopes scopes) := by
  induction scopes generalizing st with
  | nil => exact .refl st
  | cons s rest ih => exact (alike_closeScope st).trans (ih _)

/-- Settling starts nothing, so what has been started is the same at the end. -/
theorem alike_drain (st : Standing) : st.Alike st.drain :=
  (still_finalize st).toAlike.trans (alike_closeScopes _ _)

end Standing

/-! ### The scopes of a replay -/

/-- What the scopes of a replay have to do with its log. -/
structure Nested (log : List Message) (marks : List Mark) (calls : List (Operation × Handle))
    (tests : List TestResult) (scopes : List Scope) : Prop where
  /-- The marks are those of the log. -/
  kinds : marks.map (·.kind) = (log.map (·.kind)).filter (·.isMarked)
  /-- Their handles are those under which scopes and tests are opened, one after another. -/
  scopesStarted : calledWith .startScope calls = scopesOf marks
  testsStarted : calledWith .startTest calls = testsOf marks
  scopes_nodup : (scopesOf marks).Nodup
  tests_nodup : (testsOf marks).Nodup
  /-- Each test is written, in order. -/
  tests : tests.map (·.handle) = testsOf marks
  /-- Each scope is written once, with the children that plain nesting gives it. -/
  families : (scopes.map fun s => (s.handle, s.children)).Perm
    ((scopesOf marks).map fun h => (h, childrenOf h marks))
  /-- A test is listed by the suites that are open at its start, and by its own scope. -/
  listed : ∀ before scope test after, marks = before ++ .test scope test :: after →
    ∀ s ∈ scopes, test ∈ s.children ↔ s.handle = scope ∨ s.handle ∈ openSuites before
  /-- No scope lists a test twice. -/
  children_nodup : ∀ s ∈ scopes, s.children.Nodup
  /-- The scope of a test lists nothing else. -/
  own : ∀ scope test, .test scope test ∈ marks →
    ∃ s ∈ scopes, s.handle = scope ∧ s.children = [test]

/-- Operations on fixtures are not among the calls of another operation. -/
private theorem calledWith_filter {op : Operation} (hop : op.onFixture = false)
    (calls : List (Operation × Handle)) :
    calledWith op (calls.filter fun call => !call.1.onFixture) = calledWith op calls := by
  rw [calledWith, calledWith, List.filter_filter]
  congr 1
  refine List.filter_congr fun call _ => ?_
  by_cases hcall : call.1 = op
  · simp [hcall, hop]
  · simp [hcall]

/-- What is known of the children of a scope holds of the scope that is written. -/
private theorem Standing.Charts.nested {marks : List Mark} {st : Standing} {log : List Message}
    {calls : List (Operation × Handle)} {tests : List TestResult} {scopes : List Scope}
    (hc : st.Charts marks) (hkinds : marks.map (·.kind) = (log.map (·.kind)).filter (·.isMarked))
    (hscopes : calledWith .startScope calls = calledWith .startScope st.calls)
    (htests : calledWith .startTest calls = calledWith .startTest st.calls)
    (hwritten : tests.map (·.handle) = st.tests)
    (hfamilies : (scopes.map fun s => (s.handle, s.children)).Perm st.families) :
    Nested log marks calls tests scopes := by
  have hperm := hfamilies.trans hc.families
  -- so the rest is about plain nesting
  have hchildren : ∀ s ∈ scopes, s.children = childrenOf s.handle marks := fun s hs => by
    obtain ⟨h, -, heq⟩ := List.mem_map.1 (hperm.subset (List.mem_map_of_mem hs))
    obtain ⟨rfl, heq⟩ := Prod.mk.inj heq
    exact heq.symm
  refine
    { kinds := hkinds
      scopesStarted := hscopes.trans hc.scopesStarted
      testsStarted := htests.trans hc.testsStarted
      scopes_nodup := hc.scopesDrawn.nodup
      tests_nodup := hc.testsDrawn.nodup
      tests := hwritten.trans hc.tests
      families := hperm
      listed := ?_
      children_nodup := ?_
      own := ?_ }
  -- a scope lists a test if it was open when the test started
  · rintro before scope test after rfl s hs
    rw [hchildren s hs]
    exact mem_childrenOf_iff hc.testsDrawn.nodup s.handle
  -- it lists each test once, for every test is nested once
  · intro s hs
    rw [hchildren s hs, childrenOf]
    have hall : ((nestings [] marks).map (·.1)).Nodup :=
      map_fst_nestings [] marks ▸ hc.testsDrawn.nodup
    exact hall.sublist (List.filter_sublist.map _)
  -- the own scope of a test is among those written
  · intro scope test hm
    have hmem : scope ∈ scopesOf marks := List.mem_filterMap.2 ⟨_, hm, rfl⟩
    obtain ⟨s, hs, heq⟩ := List.mem_map.1 (hperm.symm.subset (List.mem_map_of_mem hmem))
    obtain ⟨hhandle, heq⟩ := Prod.mk.inj heq
    exact ⟨s, hs, hhandle, heq.trans (childrenOf_own hc.scopesDrawn.nodup hm)⟩

/-- The replay of any log into a report between replays succeeds and writes scopes that nest as
the starts and ends of suites in the log do. -/
theorem Machine.nested_of_replay {b : Backend} (hb : b.BetweenReplays) (isAfterAll : String → Bool)
    (synchronised : Bool) (contextId : String) (log : List Message) :
    ∃ p calls tests scopes marks, Runs (Backend.machine isAfterAll synchronised).replay
        ⟨{ contextId := contextId, log := log }, b⟩ () p
      ∧ p.world.calls = b.calls ++ calls
      ∧ p.world.writtenTests = b.writtenTests ++ tests
      ∧ p.world.writtenScopes = b.writtenScopes ++ scopes
      ∧ Nested log marks calls tests scopes := by
  obtain ⟨marks, hcharts, hkinds⟩ := Standing.exists_charts b isAfterAll log
  have hcore := Standing.core_replay isAfterAll log (Standing.initial b)
  generalize (Standing.initial b).steps isAfterAll log = st at hcharts hcore
  have hdrain := Standing.alike_drain st
  -- a replay also stops fixtures between the last message and the end, which scopes do not show
  have hcalls : ∀ op : Operation, op.onFixture = false →
      calledWith op ((Standing.initial b).replay isAfterAll log).calls
        = calledWith op st.drain.calls := fun op hop => by
    rw [← calledWith_filter hop, ← calledWith_filter hop st.drain.calls]
    exact congrArg (fun st => calledWith op st.calls) hcore
  -- at the end nothing is open, so everything is written
  have hscopes : st.drain.scopes = [] := Standing.scopes_closeScopes rfl
  have htests : ((Standing.initial b).replay isAfterAll log).writtenTests = st.drain.writtenTests :=
    congrArg (·.writtenTests) hcore
  have hfamilies : ((Standing.initial b).replay isAfterAll log).writtenScopes
      = st.drain.writtenScopes := congrArg (·.writtenScopes) hcore
  have hcurrent : st.drain.current = none :=
    (Standing.frame_closeScopes _ _).1.trans (Standing.current_finalize st)
  refine ⟨_, _, _, _, marks, runs_replay hb.idle isAfterAll synchronised contextId log,
    rfl, rfl, rfl, hcharts.nested hkinds ?_ ?_ ?_ ?_⟩
  -- what was started, and then what was written
  · exact (hcalls .startScope rfl).trans hdrain.scopesStarted
  · exact (hcalls .startTest rfl).trans hdrain.testsStarted
  · rw [← hdrain.tests, Standing.tests, hcurrent, ← htests]
    exact (List.append_nil _).symm
  · refine .trans (.of_eq ?_) hdrain.families
    rw [Standing.families, hscopes, ← hfamilies]
    rfl

/-- A suite that ends while its test is open, and another one after it. -/
theorem Machine.nested_of_early_end :
    (Backend.inMemory {}).BetweenReplays ∧ ∃ p scopes marks,
      Runs (Backend.machine (fun _ => false) true).replay
        ⟨{ contextId := "main"
           log := [.suiteStart "outer" true, .testStart "a" 1, .suiteEnd, .suiteStart "next" true,
             .testStart "b" 2] },
          .inMemory {}⟩ () p
      ∧ p.world.writtenScopes = scopes
      ∧ marks.map Mark.kind = [.suiteStart, .testStart, .suiteEnd, .suiteStart, .testStart]
      ∧ (scopes.map fun s => (s.handle, s.children)).Perm
        ((scopesOf marks).map fun h => (h, childrenOf h marks)) := by
  have hb := Backend.BetweenReplays.fresh {}
  obtain ⟨p, calls, tests, scopes, marks, hruns, -, -, hscopes, hnested⟩ :=
    nested_of_replay hb (fun _ => false) true "main"
      [.suiteStart "outer" true, .testStart "a" 1, .suiteEnd, .suiteStart "next" true,
        .testStart "b" 2]
  exact ⟨hb, p, scopes, marks, hruns, hscopes, hnested.kinds, hnested.families⟩

end Chronicle
