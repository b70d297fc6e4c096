import Chronicle.Proofs.Replay.DeclinedHooks
import Chronicle.Proofs.Report.Custody
import Chronicle.Proofs.Report.Interruption
import Chronicle.Proofs.Session.Results

/-!
# What the parts of a replay remark

Each part of a replay is read off a run of it: which remarks it adds to the notes of a desk, and
which calls to the report. A part that finds nothing to act on says so; one that acts calls the
report, and makes a remark only where the log has left something out.
-/
namespace Chronicle

/-! ### Calls of a report -/

namespace Backend

variable {b b' : Backend} {α : Type} {c : Call α}

/-- No call changes where a report goes. -/
private theorem Deed.destination_eq (hd : Deed b c b') : b'.destination = b.destination := by
  cases hd <;> rfl

/-- A call that goes through is noted, unless a fixture is declined. -/
theorem Deed.exists_calls (hd : Deed b c b') :
    ∃ calls, b'.calls = b.calls ++ calls ∧ ∀ call ∈ calls, call.1 = c.operation := by
  cases hd with
  | declined => exact ⟨[], (List.append_nil _).symm, nofun⟩
  | _ => exact ⟨[_], rfl, by simp [Call.operation]⟩

/-- A call that returns has done one of the things that calls do. -/
private theorem deed_of_runs (hm : b.destination = .memory) {a : α}
    (h : Runs (c.run reporter) b a b') : Deed b c b' := by
  rcases refused_or_deed hm c with ⟨kind, x, -, -, herror⟩ | ⟨a', b'', h', hd⟩
  · rw [Runs, herror] at h
    cases h
  · obtain ⟨-, rfl⟩ := h.unique h'
    exact hd

end Backend

/-! ### What a part of a replay adds -/

/-- Remarks that have been added to the notes, and calls that have been added to the report. The
session is still that of the same context, and the report where it was. -/
structure Adds (synchronised : Bool) (remarks : List Remark) (calls : List (Operation × Handle))
    (p q : Pass Desk) : Prop where
  contextId : q.session.contextId = p.session.contextId
  destination : q.world.report.destination = p.world.report.destination
  notes : q.world.notes
    = p.world.notes ++ remarks.map fun r => (synchronised, ⟨p.session.contextId, r⟩)
  calls : q.world.report.calls = p.world.report.calls ++ calls

/-- No entry has been applied to a test. -/
def Quiet (calls : List (Operation × Handle)) : Prop :=
  ∀ call ∈ calls, call.1 ≠ .applyMessages

/-- No calls are quiet. -/
private theorem quiet_nil : Quiet [] := nofun

/-- Quiet calls after quiet calls are quiet. -/
theorem Quiet.append {calls calls' : List (Operation × Handle)} (h : Quiet calls)
    (h' : Quiet calls') : Quiet (calls ++ calls') :=
  List.forall_mem_append.2 ⟨h, h'⟩

namespace Adds

variable {synchronised : Bool} {remarks remarks' : List Remark}
  {calls calls' : List (Operation × Handle)} {p q r : Pass Desk}

/-- Nothing is added by doing nothing. -/
theorem refl (p : Pass Desk) : Adds synchronised [] [] p p :=
  ⟨rfl, rfl, (List.append_nil _).symm, (List.append_nil _).symm⟩

/-- What two parts add is added in their order. -/
theorem trans (h : Adds synchronised remarks calls p q)
    (h' : Adds synchronised remarks' calls' q r) :
    Adds synchronised (remarks ++ remarks') (calls ++ calls') p r where
  contextId := h'.contextId.trans h.contextId
  destination := h'.destination.trans h.destination
  notes := by rw [h'.notes, h.notes, h.contextId, List.map_append, List.append_assoc]
  calls := by rw [h'.calls, h.calls, List.append_assoc]

/-- Nothing that is added changes where the report goes. -/
theorem memory (h : Adds synchronised remarks calls p q)
    (hm : p.world.report.destination = .memory) : q.world.report.destination = .memory :=
  h.destination.trans hm

end Adds

/-- Remarks have been added, and no entry has been applied to a test. -/
def Remarks (synchronised : Bool) (remarks : List Remark) (p q : Pass Desk) : Prop :=
  ∃ calls, Adds synchronised remarks calls p q ∧ Quiet calls

namespace Remarks

variable {synchronised : Bool} {remarks remarks' : List Remark} {p q r : Pass Desk}

/-- Nothing is remarked by doing nothing. -/
theorem refl (p : Pass Desk) : Remarks synchronised [] p p :=
  ⟨[], .refl p, quiet_nil⟩

/-- What two parts remark is remarked in their order. -/
theorem trans (h : Remarks synchronised remarks p q) (h' : Remarks synchronised remarks' q r) :
    Remarks synchronised (remarks ++ remarks') p r := by
  obtain ⟨calls, hadds, hquiet⟩ := h
  obtain ⟨calls', hadds', hquiet'⟩ := h'
  exact ⟨_, hadds.trans hadds', hquiet.append hquiet'⟩

/-- No remark changes where the report goes. -/
theorem memory (h : Remarks synchronised remarks p q)
    (hm : p.world.report.destination = .memory) : q.world.report.destination = .memory := by
  obtain ⟨calls, hadds, -⟩ := h
  exact hadds.memory hm

end Remarks

/-- The remark that is due when the open test is finalized: there is none if it has ended. -/
def Session.unfinished (s : Session) (reason : Finalization) : List Remark :=
  s.executables.map fun _ => .testFinalized reason

/-- The remarks that are due when a log has been read: fixtures may still run, and the open test may
not have ended. -/
def Session.leftovers (s : Session) : List Remark :=
  (s.fixtures.map fun _ => .fixtureStopped) ++ s.unfinished .endOfLog

/-- The only test that may not have ended is the open one. -/
def Session.IsSingle (s : Session) : Prop :=
  s.executables = [] ∨ ∃ test, s.currentTest = some test ∧ s.executables = [test]

namespace Machine

variable {isAfterAll : String → Bool} {synchronised : Bool} {p q : Pass Desk}

/-! ### Parts of a replay -/

/-- What is done with the session is done with it as it is. -/
theorem runs_of_session {α : Type} {next : Session → Replay Desk ReportError α} {a : α}
    (h : Runs (session >>= next) p a q) : Runs (next p.session) p a q :=
  h

/-- A change of the session is all that it says. -/
private theorem eq_of_changeSession {f : Session → Session}
    (h : Runs (changeSession f : Replay Desk ReportError Unit) p () q) :
    q = ⟨f p.session, p.world⟩ := by
  cases h
  rfl

/-- A change of the session that is not one of its context adds nothing. -/
private theorem adds_changeSession {f : Session → Session}
    (hf : (f p.session).contextId = p.session.contextId)
    (h : Runs (changeSession f : Replay Desk ReportError Unit) p () q) :
    q.session = f p.session ∧ Adds synchronised [] [] p q := by
  obtain rfl := eq_of_changeSession h
  exact ⟨rfl, hf, rfl, (List.append_nil _).symm, (List.append_nil _).symm⟩

/-- A remark adds itself to the notes and nothing to the calls. -/
private theorem adds_remark {r : Remark}
    (h : Runs ((Desk.machine isAfterAll synchronised).remark r) p () q) :
    q.session = p.session ∧ Adds synchronised [r] [] p q := by
  cases h
  exact ⟨rfl, rfl, rfl, rfl, (List.append_nil _).symm⟩

/-- A call leaves the session and the notes alone. What it is about is noted with it. -/
private theorem adds_call (hm : p.world.report.destination = .memory) {α : Type} {c : Call α}
    {a : α} (h : Runs (call (c.run Desk.reporter) : Replay Desk ReportError α) p a q) :
    q.session = p.session ∧ ∃ calls, Adds synchronised [] calls p q
      ∧ (∀ call ∈ calls, call.1 = c.operation)
      ∧ ∀ kind x, c.target? = some (kind, x) → calls = [(c.operation, x)] := by
  rw [Desk.IsReporter.run_eq (.inl rfl)] at h
  simp only [Runs, call, Reporter.onPart] at h
  -- a call that fails is no run
  cases hrun : c.run Backend.reporter p.world.report with
  | error e b =>
    rw [hrun] at h
    cases h
  | ok a' b =>
    rw [hrun] at h
    cases h
    -- the call goes through, so what it has done to the report is known
    have hd := Backend.deed_of_runs hm hrun
    obtain ⟨calls, hcalls, hops⟩ := hd.exists_calls
    refine ⟨rfl, calls, ⟨rfl, hd.destination_eq, (List.append_nil _).symm, hcalls⟩, hops, ?_⟩
    -- a call with a target is recorded with it
    intro kind x htarget
    exact List.append_cancel_left (hcalls.symm.trans (hd.opened htarget).2)

/-- A call that applies no entry. -/
private theorem remarks_call (hm : p.world.report.destination = .memory) {α : Type} {c : Call α}
    {a : α} (hc : c.operation ≠ .applyMessages)
    (h : Runs (call (c.run Desk.reporter) : Replay Desk ReportError α) p a q) :
    q.session = p.session ∧ Remarks synchronised [] p q := by
  obtain ⟨hsession, calls, hadds, hops, -⟩ := adds_call hm h
  exact ⟨hsession, calls, hadds, fun call hcall => hops call hcall ▸ hc⟩

/-- A change of the session that keeps its context remarks nothing. -/
private theorem remarks_changeSession {f : Session → Session}
    (hf : (f p.session).contextId = p.session.contextId)
    (h : Runs (changeSession f : Replay Desk ReportError Unit) p () q) :
    q.session = f p.session ∧ Remarks synchronised [] p q := by
  obtain ⟨hsession, hadds⟩ := adds_changeSession hf h
  exact ⟨hsession, [], hadds, quiet_nil⟩

/-- A remark is all that it remarks. -/
private theorem remarks_remark {r : Remark}
    (h : Runs ((Desk.machine isAfterAll synchronised).remark r) p () q) :
    q.session = p.session ∧ Remarks synchronised [r] p q := by
  obtain ⟨hsession, hadds⟩ := adds_remark h
  exact ⟨hsession, [], hadds, quiet_nil⟩

/-- A scope is opened without a remark. -/
private theorem remarks_openScope (hm : p.world.report.destination = .memory)
    (h : Runs (Desk.machine isAfterAll synchronised).openScope p () q) :
    (∃ scope, q.session = { p.session with scopes := scope :: p.session.scopes })
      ∧ Remarks synchronised [] p q := by
  obtain ⟨scope, p₁, hcall, hchange⟩ := h.exists_of_bind
  obtain ⟨hsession, hremarks⟩ := remarks_call hm (c := .startScope) nofun hcall
  obtain ⟨hsession', hremarks'⟩ := remarks_changeSession rfl hchange
  exact ⟨⟨scope, by rw [hsession', hsession]⟩, hremarks.trans hremarks'⟩

/-- The innermost scope is closed without a remark, if there is one. -/
private theorem remarks_closeScope (hm : p.world.report.destination = .memory)
    (h : Runs (Desk.machine isAfterAll synchronised).closeScope p () q) :
    q.session = { p.session with scopes := p.session.scopes.tail }
      ∧ Remarks synchronised [] p q := by
  replace h := runs_of_session h
  -- without a scope nothing happens; with one, it is taken off before it is written
  cases hscopes : p.session.scopes with
  | nil =>
    simp only [hscopes] at h
    cases h
    exact ⟨by rw [List.tail_nil, ← hscopes], .refl p⟩
  | cons scope rest =>
    simp only [hscopes] at h
    -- the change of the session, and then the call
    obtain ⟨⟨⟩, p₂, hchange, hcall⟩ := h.exists_of_bind
    obtain ⟨hsession₂, hremarks₂⟩ := remarks_changeSession rfl hchange
    obtain ⟨hsession₃, hremarks₃⟩ :=
      remarks_call (hremarks₂.memory hm) (c := .writeScope scope) nofun hcall
    exact ⟨by rw [hsession₃, hsession₂]; rfl, hremarks₂.trans hremarks₃⟩

/-- The open test is finalized with a remark if it has not ended. -/
private theorem remarks_finalizeTest (hm : p.world.report.destination = .memory)
    (hs : p.session.IsSingle) {reason : Finalization}
    (h : Runs ((Desk.machine isAfterAll synchronised).finalizeTest reason) p () q) :
    q.session.executables = [] ∧ Remarks synchronised (p.session.unfinished reason) p q := by
  replace h := runs_of_session h
  cases hcurrent : p.session.currentTest with
  | none =>
    simp only [hcurrent] at h
    cases h
    -- no test is open, so there is none that has not ended
    have hnone : p.session.executables = [] := by
      rcases hs with hnone | ⟨test, htest, -⟩
      · exact hnone
      · rw [hcurrent] at htest
        cases htest
    exact ⟨hnone, by rw [Session.unfinished, hnone]; exact .refl p⟩
  | some test =>
    simp only [hcurrent] at h
    -- its own scope is written first, then the test; nothing is remarked so far
    obtain ⟨⟨⟩, p₂, hclose, h⟩ := h.exists_of_bind
    obtain ⟨hsession₂, hremarks₂⟩ := remarks_closeScope hm hclose
    obtain ⟨⟨⟩, p₃, hwrite, h⟩ := h.exists_of_bind
    obtain ⟨hsession₃, hremarks₃⟩ :=
      remarks_call (hremarks₂.memory hm) (c := .writeTest test) nofun hwrite
    replace h := runs_of_session h
    have hexecutables : p₃.session.executables = p.session.executables := by
      rw [hsession₃, hsession₂]
    have hwritten := hremarks₂.trans hremarks₃
    rw [hexecutables] at h
    rcases hs with hnone | ⟨test', htest, hone⟩
    · -- the test has ended
      simp only [hnone, List.contains_nil, Bool.false_eq_true, if_false] at h
      obtain ⟨hsession₅, hremarks₅⟩ := remarks_changeSession rfl h
      refine ⟨?_, ?_⟩
      · rw [hsession₅]
        exact hexecutables.trans hnone
      · rw [Session.unfinished, hnone]
        exact hwritten.trans hremarks₅
    · -- the test has not ended, and it is the only one
      obtain rfl : test' = test := Option.some.inj (htest.symm.trans hcurrent)
      simp only [hone, List.contains_cons, beq_self_eq_true, Bool.true_or, if_true] at h
      obtain ⟨⟨⟩, p₅, hchange, h⟩ := h.exists_of_bind
      obtain ⟨hsession₅, hremarks₅⟩ := remarks_changeSession rfl hchange
      obtain ⟨⟨⟩, p₆, hremark, h⟩ := h.exists_of_bind
      obtain ⟨hsession₆, hremarks₆⟩ := remarks_remark hremark
      obtain ⟨hsession₇, hremarks₇⟩ := remarks_changeSession rfl h
      refine ⟨?_, ?_⟩
      · rw [hsession₇, hsession₆, hsession₅]
        simp only [hexecutables, hone, List.erase_cons_head]
      · rw [Session.unfinished, hone]
        exact hwritten.trans (hremarks₅.trans (hremarks₆.trans hremarks₇))

/-- A test that starts leaves a remark on the test before, if that has not ended. -/
theorem remarks_startTest (hm : p.world.report.destination = .memory) (hs : p.session.IsSingle)
    {name : String} {start : Int}
    (h : Runs ((Desk.machine isAfterAll synchronised).startTest name start) p () q) :
    q.session.executables.length = 1
      ∧ Remarks synchronised (p.session.unfinished .testStart) p q := by
  -- the open test is finalized, a scope opened and the test started in it
  obtain ⟨⟨⟩, p₁, hfinalize, h⟩ := h.exists_of_bind
  obtain ⟨hnone, hremarks₁⟩ := remarks_finalizeTest hm hs hfinalize
  have hm₁ := hremarks₁.memory hm
  obtain ⟨⟨⟩, p₂, hopen, h⟩ := h.exists_of_bind
  obtain ⟨⟨scope, hsession₂⟩, hremarks₂⟩ := remarks_openScope hm₁ hopen
  replace h := runs_of_session h
  obtain ⟨test, p₃, hstart, h⟩ := h.exists_of_bind
  obtain ⟨hsession₃, hremarks₃⟩ := remarks_call (hremarks₂.memory hm₁)
    (c := .startTest name start p₂.session.scopes.reverse) nofun hstart
  obtain ⟨hsession₄, hremarks₄⟩ := remarks_changeSession rfl h
  -- the finalization leaves no test, so the new one is the only one
  refine ⟨?_, ?_⟩
  · rw [hsession₄, hsession₃, hsession₂]
    simp only [hnone, List.length_cons, List.length_nil]
  · have hrest := hremarks₂.trans (hremarks₃.trans hremarks₄)
    simpa using hremarks₁.trans hrest

/-- A test is named without a remark. -/
theorem remarks_nameTest (hm : p.world.report.destination = .memory) {fullName : String}
    (h : Runs ((Desk.machine isAfterAll synchronised).nameTest fullName) p () q) :
    q.session = p.session ∧ Remarks synchronised [] p q := by
  replace h := runs_of_session h
  cases hexecutables : p.session.executables with
  -- with no test running the name is passed over
  | nil =>
    simp only [hexecutables] at h
    cases h
    exact ⟨rfl, .refl p⟩
  | cons test rest =>
    simp only [hexecutables] at h
    exact remarks_call hm
      (c := .updateTest test fun r => { r with fullName := some fullName }) nofun h

/-- Each step that is closed has its remark and its call. -/
private theorem adds_closeSteps {test : Handle} {status : Status} {stop : Int} {n : Nat}
    (hm : p.world.report.destination = .memory)
    (h : Runs ((Desk.machine isAfterAll synchronised).closeSteps test status stop n) p () q) :
    q.session.executables = p.session.executables
      ∧ Adds synchronised (List.replicate n (.stepClosed status))
          (List.replicate n (.applyMessages, test)) p q := by
  -- by induction on the number of steps: each is a call, a change of the count and a remark
  induction n generalizing p with
  | zero =>
    cases h
    exact ⟨rfl, .refl _⟩
  | succ n ih =>
    obtain ⟨⟨⟩, p₁, hcall, h⟩ := h.exists_of_bind
    obtain ⟨hsession₁, calls, hadds₁, -, htarget⟩ :=
      adds_call hm (c := .applyMessages test [.stepStop status stop none]) hcall
    -- the call is with the test that ends
    obtain rfl := htarget .test test rfl
    obtain ⟨⟨⟩, p₂, hchange, h⟩ := h.exists_of_bind
    obtain ⟨hsession₂, hadds₂⟩ := adds_changeSession rfl hchange
    obtain ⟨⟨⟩, p₃, hremark, h⟩ := h.exists_of_bind
    obtain ⟨hsession₃, hadds₃⟩ := adds_remark hremark
    have hclosed := hadds₁.trans (hadds₂.trans hadds₃)
    obtain ⟨hexecutables, hadds₄⟩ := ih (hclosed.memory hm) h
    refine ⟨?_, hclosed.trans hadds₄⟩
    rw [hexecutables, hsession₃, hsession₂, hsession₁]

/-- The end of a test closes the steps that are open in it, and then stops it. -/
theorem adds_endTest (hm : p.world.report.destination = .memory) (hs : p.session.IsSingle)
    {e : TestEnding} {isLast : Bool} {test : Handle} {rest : List Handle}
    (hexecutables : p.session.executables = test :: rest)
    (h : Runs ((Desk.machine isAfterAll synchronised).endTest e isLast) p () q) :
    q.session.executables = [] ∧ ∃ closing, Quiet closing
      ∧ Adds synchronised (List.replicate p.session.openSteps (.stepClosed e.status))
          (List.replicate p.session.openSteps (.applyMessages, test)
            ++ (.updateTest, test) :: (.stopTest, test) :: closing) p q := by
  -- the test that ends is the open one, whose steps are counted
  obtain ⟨test', hcurrent, hone⟩ : ∃ test', p.session.currentTest = some test'
      ∧ p.session.executables = [test'] := by
    rcases hs with hnone | hone
    · rw [hexecutables] at hnone
      cases hnone
    · exact hone
  obtain ⟨rfl, rfl⟩ : test' = test ∧ [] = rest := by
    rw [hexecutables, List.cons.injEq] at hone
    exact ⟨hone.1.symm, hone.2.symm⟩
  replace h := runs_of_session h
  simp only [hexecutables] at h
  obtain ⟨⟨⟩, p₁, hchange, h⟩ := h.exists_of_bind
  obtain ⟨hsession₁, hadds₁⟩ := adds_changeSession rfl hchange
  -- the steps are closed before the test is stopped
  obtain ⟨⟨⟩, p₂, hsteps, h⟩ := h.exists_of_bind
  replace hsteps := runs_of_session hsteps
  simp only [hsession₁, hcurrent] at hsteps
  obtain ⟨hsession₂, hadds₂⟩ := adds_closeSteps (hadds₁.memory hm) hsteps
  rw [hsession₁] at hsession₂
  have hclosed := hadds₁.trans hadds₂
  -- then the ending is set
  obtain ⟨⟨⟩, p₃, hupdate, h⟩ := h.exists_of_bind
  obtain ⟨hsession₃, calls₃, hadds₃, -, htarget₃⟩ :=
    adds_call (hclosed.memory hm) (c := .updateTest test' (·.ended e)) hupdate
  obtain rfl := htarget₃ .test test' rfl
  have hupdated := hclosed.trans hadds₃
  -- and the test is stopped
  obtain ⟨⟨⟩, p₄, hstop, h⟩ := h.exists_of_bind
  obtain ⟨hsession₄, calls₄, hadds₄, -, htarget₄⟩ :=
    adds_call (hupdated.memory hm) (c := .stopTest test' (some e.stop) e.duration) hstop
  obtain rfl := htarget₄ .test test' rfl
  have hstopped := hupdated.trans hadds₄
  have hexecutables₄ : p₄.session.executables = [] := by
    rw [hsession₄, hsession₃, hsession₂]
  cases isLast with
  | false =>
    cases h
    exact ⟨hexecutables₄, [], quiet_nil, by simpa [Call.operation] using hstopped⟩
  | true =>
    -- the test has ended, so that it is finalized without a remark
    obtain ⟨hnone, closing, hadds₅, hquiet⟩ :=
      remarks_finalizeTest (hstopped.memory hm) (.inl hexecutables₄) h
    rw [Session.unfinished, hexecutables₄] at hadds₅
    exact ⟨hnone, closing, hquiet, by simpa [Call.operation] using hstopped.trans hadds₅⟩

/-- A suite that starts leaves a remark on the test before, if that has not ended. -/
theorem remarks_startSuite (hm : p.world.report.destination = .memory) (hs : p.session.IsSingle)
    (h : Runs (Desk.machine isAfterAll synchronised).startSuite p () q) :
    q.session.executables = []
      ∧ Remarks synchronised (p.session.unfinished .suiteStart) p q := by
  obtain ⟨⟨⟩, p₁, hfinalize, hopen⟩ := h.exists_of_bind
  obtain ⟨hnone, hremarks₁⟩ := remarks_finalizeTest hm hs hfinalize
  obtain ⟨⟨scope, hsession₂⟩, hremarks₂⟩ := remarks_openScope (hremarks₁.memory hm) hopen
  refine ⟨?_, by simpa using hremarks₁.trans hremarks₂⟩
  rw [hsession₂]
  exact hnone

/-- A suite that ends does so only with the last message. -/
theorem remarks_endSuite (hm : p.world.report.destination = .memory) (hs : p.session.IsSingle)
    {isLast : Bool}
    (h : Runs ((Desk.machine isAfterAll synchronised).endSuite isLast) p () q) :
    q.session.executables = (if isLast then [] else p.session.executables)
      ∧ Remarks synchronised (if isLast then p.session.unfinished .lastMessage else []) p q := by
  obtain ⟨⟨⟩, p₁, hclose, h⟩ := h.exists_of_bind
  obtain ⟨hsession₁, hremarks₁⟩ := remarks_closeScope hm hclose
  -- only the last message finalizes the test
  cases isLast with
  | false =>
    cases h
    exact ⟨by rw [hsession₁]; rfl, hremarks₁⟩
  | true =>
    -- closing a scope leaves the tests as they are
    have hs₁ : p₁.session.IsSingle := by
      rw [hsession₁]
      exact hs
    obtain ⟨hnone, hremarks₂⟩ := remarks_finalizeTest (hremarks₁.memory hm) hs₁ h
    rw [Session.unfinished, hsession₁] at hremarks₂
    exact ⟨hnone, hremarks₁.trans hremarks₂⟩

/-- A hook gets a fixture, or it is declined with a remark. -/
private theorem remarks_startFixture (hm : p.world.report.destination = .memory) {name : String}
    {kind : HookKind} {start : Int}
    (h : Runs ((Desk.machine (fun _ => false) synchronised).startHook name kind start) p () q) :
    q.session.executables = p.session.executables ∧ ∃ fixture p₁,
      Runs (call (Desk.reporter.startFixture p.session.scopes.head? kind name start)) p fixture p₁
        ∧ Remarks synchronised (if fixture = none then [.fixtureDeclined name] else []) p q := by
  replace h := runs_of_session h
  obtain ⟨fixture, p₁, hcall, h⟩ := h.exists_of_bind
  obtain ⟨hsession₁, hremarks₁⟩ :=
    remarks_call hm (c := .startFixture p.session.scopes.head? kind name start) nofun hcall
  cases fixture with
  -- the fixture was declined, which is remarked
  | none =>
    obtain ⟨hsession₂, hremarks₂⟩ := remarks_remark h
    exact ⟨by rw [hsession₂, hsession₁], none, p₁, hcall, hremarks₁.trans hremarks₂⟩
  | some fixture =>
    obtain ⟨hsession₂, hremarks₂⟩ := remarks_changeSession rfl h
    exact ⟨by rw [hsession₂, hsession₁], some fixture, p₁, hcall, hremarks₁.trans hremarks₂⟩

/-- A hook finalizes the open test first if it runs after all tests. -/
theorem remarks_startHook (hm : p.world.report.destination = .memory) (hs : p.session.IsSingle)
    {name : String} {kind : HookKind} {start : Int}
    (h : Runs ((Desk.machine isAfterAll synchronised).startHook name kind start) p () q) :
    q.session.executables = (if isAfterAll name then [] else p.session.executables)
      ∧ ∃ declined, Remarks synchronised
          ((if isAfterAll name then p.session.unfinished .afterAllHook else []) ++ declined) p q
        ∧ ((Desk.machine isAfterAll synchronised).Declines p name kind start →
          declined = [.fixtureDeclined name])
        ∧ (¬(Desk.machine isAfterAll synchronised).Declines p name kind start →
          declined = []) := by
  -- once the open test has been finalized where it must be, all hooks start in the same way
  obtain ⟨p₁, hready, hexecutables₁, hremarks₁, h⟩ : ∃ p₁,
      Runs (if isAfterAll name then
          (Desk.machine isAfterAll synchronised).finalizeTest .afterAllHook else pure ()) p () p₁
        ∧ p₁.session.executables = (if isAfterAll name then [] else p.session.executables)
        ∧ Remarks synchronised (if isAfterAll name then p.session.unfinished .afterAllHook else [])
            p p₁
        ∧ Runs ((Desk.machine (fun _ => false) synchronised).startHook name kind start) p₁ () q
        := by
    cases hname : isAfterAll name with
    | false =>
      simp only [startHook, Desk.machine, hname, Bool.false_eq_true, if_false] at h ⊢
      exact ⟨p, .pure () p, rfl, .refl p, h⟩
    | true =>
      simp only [startHook, Desk.machine, hname, if_true, Bool.false_eq_true, if_false] at h ⊢
      obtain ⟨⟨⟩, p₁, hfinalize, h⟩ := h.exists_of_bind
      obtain ⟨hnone, hremarks₁⟩ := remarks_finalizeTest hm hs hfinalize
      exact ⟨p₁, hfinalize, hnone, hremarks₁, h⟩
  obtain ⟨hexecutables₂, fixture, p₂, hcall, hremarks₂⟩ :=
    remarks_startFixture (hremarks₁.memory hm) h
  refine ⟨hexecutables₂.trans hexecutables₁, _, hremarks₁.trans hremarks₂, ?_, ?_⟩
  · rintro ⟨q₁, q₂, hready', hcall'⟩
    -- what comes before the call has one outcome only, and so has the call
    obtain ⟨-, rfl⟩ := hready'.unique hready
    obtain ⟨rfl, -⟩ := hcall'.unique hcall
    exact if_pos rfl
  -- had the call been declined, so would be the hook
  · intro hnot
    refine if_neg ?_
    rintro rfl
    exact hnot ⟨p₁, p₂, hready, hcall⟩

/-- A hook ends without a remark. -/
theorem remarks_endHook (hm : p.world.report.destination = .memory) {e : HookEnding}
    (h : Runs ((Desk.machine isAfterAll synchronised).endHook e) p () q) :
    q.session.executables = p.session.executables ∧ Remarks synchronised [] p q := by
  replace h := runs_of_session h
  -- without a fixture nothing happens; with one, it is changed and stopped
  cases hfixtures : p.session.fixtures with
  | nil =>
    simp only [hfixtures] at h
    cases h
    exact ⟨rfl, .refl p⟩
  | cons fixture rest =>
    simp only [hfixtures] at h
    obtain ⟨⟨⟩, p₁, hchange, h⟩ := h.exists_of_bind
    obtain ⟨hsession₁, hremarks₁⟩ : _ ∧ Remarks synchronised [] p p₁ :=
      remarks_changeSession rfl hchange
    -- the ending is set, and the fixture is stopped
    obtain ⟨⟨⟩, p₂, hupdate, hstop⟩ := h.exists_of_bind
    have hm₁ := hremarks₁.memory hm
    obtain ⟨hsession₂, hremarks₂⟩ :=
      remarks_call hm₁ (c := .updateFixture fixture (·.ended e)) nofun hupdate
    obtain ⟨hsession₃, hremarks₃⟩ := remarks_call (hremarks₂.memory hm₁)
      (c := .stopFixture fixture (some e.stop) e.duration) nofun hstop
    refine ⟨?_, hremarks₁.trans (hremarks₂.trans hremarks₃)⟩
    rw [hsession₃, hsession₂, hsession₁]

/-- An entry is applied to the open test, or it is dropped with a remark. -/
theorem adds_applyEntry (hm : p.world.report.destination = .memory) {e : TestEntry}
    (h : Runs ((Desk.machine isAfterAll synchronised).applyEntry e) p () q) :
    q.session.executables = p.session.executables
      ∧ match p.session.currentTest with
        | none => Adds synchronised [.messageDropped e.kind] [] p q
        | some test => Adds synchronised [] [(.applyMessages, test)] p q := by
  replace h := runs_of_session h
  -- an entry is dropped with a remark, or applied with a call
  cases hcurrent : p.session.currentTest with
  | none =>
    simp only [hcurrent] at h
    obtain ⟨hsession, hadds⟩ := adds_remark h
    exact ⟨by rw [hsession], hadds⟩
  | some test =>
    simp only [hcurrent] at h
    obtain ⟨⟨⟩, p₁, hchange, h⟩ := h.exists_of_bind
    obtain ⟨hsession₁, hadds₁⟩ := adds_changeSession rfl hchange
    obtain ⟨hsession₂, calls, hadds₂, -, htarget⟩ :=
      adds_call (hadds₁.memory hm) (c := .applyMessages test [e]) h
    -- the call is with the open test
    obtain rfl := htarget .test test rfl
    exact ⟨by rw [hsession₂, hsession₁], hadds₁.trans hadds₂⟩

/-! ### The end of a replay -/

/-- Each fixture that still runs is stopped with a remark. -/
private theorem adds_stopFixtures {fixtures : List Handle}
    (hm : p.world.report.destination = .memory)
    (h : Runs ((Desk.machine isAfterAll synchronised).stopFixtures fixtures) p () q) :
    (q.session.executables = p.session.executables
        ∧ q.session.currentTest = p.session.currentTest)
      ∧ Adds synchronised (fixtures.map fun _ => .fixtureStopped)
          (fixtures.map fun fixture => (.stopFixture, fixture)) p q := by
  -- by induction on the fixtures; the open test is left for later
  induction fixtures generalizing p with
  | nil =>
    cases h
    exact ⟨⟨rfl, rfl⟩, .refl _⟩
  | cons fixture rest ih =>
    -- the session lets go of the fixture, which is then stopped and remarked
    obtain ⟨⟨⟩, p₁, hchange, h⟩ := h.exists_of_bind
    obtain ⟨hsession₁, hadds₁⟩ := adds_changeSession rfl hchange
    obtain ⟨⟨⟩, p₂, hstop, h⟩ := h.exists_of_bind
    obtain ⟨hsession₂, calls, hadds₂, -, htarget⟩ :=
      adds_call (hadds₁.memory hm) (c := .stopFixture fixture none none) hstop
    obtain rfl := htarget .fixture fixture rfl
    obtain ⟨⟨⟩, p₃, hremark, h⟩ := h.exists_of_bind
    obtain ⟨hsession₃, hadds₃⟩ := adds_remark hremark
    have hstopped := hadds₁.trans (hadds₂.trans hadds₃)
    obtain ⟨⟨hexecutables, hcurrent⟩, hadds₄⟩ := ih (hstopped.memory hm) h
    refine ⟨⟨?_, ?_⟩, hstopped.trans hadds₄⟩
    · rw [hexecutables, hsession₃, hsession₂, hsession₁]
    · rw [hcurrent, hsession₃, hsession₂, hsession₁]

/-- Scopes left open are closed without a remark. -/
private theorem remarks_closeScopes {scopes : List Handle}
    (hm : p.world.report.destination = .memory)
    (h : Runs ((Desk.machine isAfterAll synchronised).closeScopes scopes) p () q) :
    Remarks synchronised [] p q := by
  induction scopes generalizing p with
  | nil =>
    cases h
    exact .refl _
  | cons scope rest ih =>
    obtain ⟨⟨⟩, p₁, hclose, h⟩ := h.exists_of_bind
    have hremarks := (remarks_closeScope hm hclose).2
    exact hremarks.trans (ih (hremarks.memory hm) h)

/-- Once the log has been read, what still runs is stopped and what is still open is written. -/
theorem adds_settle (hm : p.world.report.destination = .memory) (hs : p.session.IsSingle)
    (h : Runs (Desk.machine isAfterAll synchronised).settle p () q) :
    ∃ closing, Quiet closing ∧ Adds synchronised p.session.leftovers
      ((p.session.fixtures.map fun fixture => (.stopFixture, fixture)) ++ closing) p q := by
  replace h := runs_of_session h
  obtain ⟨⟨⟩, p₁, hstop, h⟩ := h.exists_of_bind
  obtain ⟨⟨hexecutables, hcurrent⟩, hadds₁⟩ := adds_stopFixtures hm hstop
  -- stopping fixtures leaves the tests as they are
  have hs₁ : p₁.session.IsSingle := by
    rw [Session.IsSingle, hexecutables, hcurrent]
    exact hs
  have hm₁ := hadds₁.memory hm
  -- a test that has not ended is finalized with a remark
  obtain ⟨⟨⟩, p₂, hfinalize, h⟩ := h.exists_of_bind
  obtain ⟨-, hremarks₂⟩ := remarks_finalizeTest hm₁ hs₁ hfinalize
  rw [Session.unfinished, hexecutables] at hremarks₂
  replace h := runs_of_session h
  -- the scopes are closed without one
  obtain ⟨closing, hadds, hquiet⟩ :=
    hremarks₂.trans (remarks_closeScopes (hremarks₂.memory hm₁) h)
  rw [List.append_nil] at hadds
  exact ⟨closing, hquiet, hadds₁.trans hadds⟩

end Machine

end Chronicle
