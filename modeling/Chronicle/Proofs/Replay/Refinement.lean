import Chronicle.Proofs.Replay.Move
import Chronicle.Proofs.Report.Operations

/-!
# Replays follow their standing

A replay into a report in memory never fails, and what it makes of its session and of the report is
what `Standing` says. The operations of the report come first, then the parts of a replay, then
whole logs; `runs_replay` is the outcome.
-/
namespace Chronicle

/-- The machine that replays into a report. -/
def Backend.machine (isAfterAll : String → Bool) (synchronised : Bool) :
    Machine Backend ReportError :=
  { reporter := Backend.reporter, isAfterAll := isAfterAll, synchronised := synchronised }

/-! ### Operations -/

namespace Standing

variable {b : Backend} {st : Standing}

/-- The innermost scope of a standing is open in the report. -/
private theorem get?_scopes_report {s : Scope} {rest : List Scope} (hc : st.scopes = s :: rest) :
    (st.report b).scopes.get? s.handle = some s := by
  simp only [report, hc, List.map_cons, Table.get?_cons_self]

/-- So is the current test. -/
theorem get?_tests_report {c : Current} (hc : st.current = some c) :
    (st.report b).tests.get? c.handle = some c.test := by
  simp only [report, hc, Option.toList_some, List.map_cons, Table.get?_cons_self]

/-- The innermost open scope is open under no other handle. -/
private theorem Sound.handle_not_mem_scopes (hs : st.Sound) {s : Scope} {rest : List Scope}
    (hc : st.scopes = s :: rest) : s.handle ∉ Table.handles (rest.map fun s => (s.handle, s)) := by
  have hnodup := hs.nodup
  simp only [held, hc, List.map_cons, List.cons_append, List.nodup_cons, List.mem_append, not_or]
    at hnodup
  rw [Table.handles, List.map_map]
  exact hnodup.1.1

/-- The open scopes of a sound standing are distinct. -/
theorem Sound.nodup_scopes (hs : st.Sound) : (st.scopes.map (·.handle)).Nodup :=
  hs.nodup.sublist (List.sublist_append_left _ _)

/-- So are its running fixtures. -/
theorem Sound.nodup_running (hs : st.Sound) : st.running.Nodup :=
  hs.nodup.sublist ((List.sublist_append_right _ _).trans (List.sublist_append_right _ _))

/-- The report opens a scope as the standing does. -/
theorem runs_startScope :
    Runs Backend.startScope (st.report b) st.next (st.openScope.report b) := by
  refine (Backend.runs_startScope _).endsIn ?_
  simp only [report, Standing.openScope, List.append_assoc]
  rfl

/-- The report writes the innermost scope as the standing closes it. -/
theorem runs_writeScope (hm : b.destination = .memory) (hs : st.Sound) {s : Scope}
    {rest : List Scope} (hc : st.scopes = s :: rest) :
    Runs (Backend.writeScope s.handle) (st.report b) () (st.closeScope.report b) := by
  refine (Backend.runs_writeScope (b := st.report b) hm (get?_scopes_report hc)).endsIn ?_
  simp only [report, Standing.closeScope, hc, List.map_cons, List.append_assoc,
    Table.remove_cons_self (hs.handle_not_mem_scopes hc)]

/-- The report starts a test in the scopes that the standing has open. -/
theorem runs_startTest (hs : st.Sound) (hc : st.current = none) (name : String) (start : Int) :
    Runs (Backend.startTest name start (st.scopes.map (·.handle)).reverse) (st.report b) st.next
      ((st.beginTest name start).report b) := by
  refine (Backend.runs_startTest _ name start _).endsIn ?_
  -- every open scope is on the path, so each of them gets the child
  have hpath : (st.scopes.map (·.handle)).reverse.foldl
      (fun open_ s => Table.change open_ s (·.addChild st.next))
      (st.scopes.map fun s => (s.handle, s))
      = (st.scopes.map (·.addChild st.next)).map fun s => (s.handle, s) := by
    rw [Table.foldl_change ((List.reverse_perm _).nodup_iff.2 hs.nodup_scopes), List.map_map,
      List.map_map]
    refine List.map_congr_left fun s hmem => ?_
    have hopen : s.handle ∈ (st.scopes.map (·.handle)).reverse :=
      List.mem_reverse.2 (List.mem_map_of_mem hmem)
    simp only [Function.comp_apply, if_pos hopen]
    rfl
  simp only [report, Standing.beginTest, hc, List.append_assoc, ← hpath]
  rfl

/-- The report changes the current test as the standing does, if the handle stays. -/
theorem runs_updateTest {c : Current} (hc : st.current = some c) {h : Handle} (hh : c.handle = h)
    {f : TestResult → TestResult} (hf : ∀ r, (f r).handle = r.handle) :
    Runs (Backend.updateTest h f) (st.report b) ()
      ((st.changeTest .updateTest (·.update f)).report b) := by
  subst hh
  refine (Backend.runs_updateTest (get?_tests_report hc) f).endsIn ?_
  simp [report, Standing.changeTest, hc, Table.change, Current.handle, OpenTest.update, hf]

/-- The report stops the current test as the standing does. -/
theorem runs_stopTest {c : Current} (hc : st.current = some c) {h : Handle} (hh : c.handle = h)
    (stop duration : Option Int) :
    Runs (Backend.stopTest h stop duration) (st.report b) ()
      ((st.stopTest stop duration).report b) := by
  subst hh
  refine (Backend.runs_stopTest (get?_tests_report hc) stop duration).endsIn ?_
  simp [report, Standing.stopTest, hc, Table.change, Current.handle, OpenTest.update,
    TestResult.stopped]

/-- The report writes the current test as the standing does. -/
theorem runs_writeTest (hm : b.destination = .memory) {c : Current} (hc : st.current = some c) :
    Runs (Backend.writeTest c.handle) (st.report b) () (st.writeTest.report b) := by
  refine (Backend.runs_writeTest (b := st.report b) hm (get?_tests_report hc)).endsIn ?_
  simp [report, Standing.writeTest, hc, Table.remove]

/-- Without a scope the report declines the fixture, as the standing does. -/
theorem runs_startFixture_nil (hc : st.scopes = []) (kind : HookKind) (name : String)
    (start : Int) :
    Runs (Backend.startFixture (st.scopes.map (·.handle)).head? kind name start) (st.report b) none
      ((st.startFixture kind name start).report b) := by
  simp only [hc, List.map_nil, List.head?_nil, Standing.startFixture]
  exact Backend.runs_startFixture_none _ kind name start

/-- The report starts a fixture under the next handle, listed in the innermost scope. -/
theorem runs_startFixture (hs : st.Sound) {s : Scope} {rest : List Scope}
    (hc : st.scopes = s :: rest) (kind : HookKind) (name : String) (start : Int) :
    Runs (Backend.startFixture (st.scopes.map (·.handle)).head? kind name start) (st.report b)
      (some st.next) ((st.startFixture kind name start).report b) := by
  have hhas : (st.report b).scopes.has s.handle = true := by
    rw [Table.has, get?_scopes_report hc]
    rfl
  have hrun := Backend.runs_startFixture hhas kind name start
  simp only [hc, List.map_cons, List.head?_cons]
  refine hrun.endsIn ?_
  simp only [report, Standing.startFixture, hc, List.map_cons, List.append_assoc,
    Table.change_cons_self (hs.handle_not_mem_scopes hc), handle_addFixture, next]

/-- The report changes the fixture that started last as the standing does. -/
theorem runs_updateFixture {h : Handle} {rest : List Handle} (hc : st.running = h :: rest)
    (f : FixtureResult → FixtureResult) :
    Runs (Backend.updateFixture h f) (st.report b) () ((st.updateFixture f).report b) := by
  have hmem : h ∈ (st.report b).running := by
    simp only [report, hc, List.mem_cons_self]
  refine (Backend.runs_updateFixture hmem f).endsIn ?_
  simp only [report, Standing.updateFixture, hc, List.append_assoc]

/-- The report stops the fixture that started last as the standing does. -/
theorem runs_stopFixture (hs : st.Sound) {h : Handle} {rest : List Handle}
    (hc : st.running = h :: rest) (stop duration : Option Int) :
    Runs (Backend.stopFixture h stop duration) (st.report b) ()
      ((st.stopFixture stop duration).report b) := by
  have hmem : h ∈ (st.report b).running := by
    simp only [report, hc, List.mem_cons_self]
  refine (Backend.runs_stopFixture hmem stop duration).endsIn ?_
  have hnodup := hs.nodup_running
  rw [hc, List.nodup_cons] at hnodup
  -- each fixture runs once, so only the one on top is taken away
  have hrest : (h :: rest).filter (· != h) = rest := by
    rw [List.filter_cons_of_neg (by simp), List.filter_eq_self]
    intro x hx
    have hne : x ≠ h := fun heq => hnodup.1 (heq ▸ hx)
    simpa using hne
  simp only [report, Standing.stopFixture, hc, List.append_assoc, hrest]

/-- The report applies an entry to the current test as the standing does. -/
theorem runs_applyEntry (hm : b.destination = .memory) {c : Current} (hc : st.current = some c)
    (e : TestEntry) :
    Runs (Backend.applyMessages c.handle [e]) (st.report b) () ((st.applyEntry e).report b) := by
  refine (Backend.runs_applyMessages (b := st.report b) hm (get?_tests_report hc) [e]).endsIn ?_
  -- the report looks the test up, the standing has it at hand; what either makes of the test is the
  -- same
  cases e with
  | stepStart name start =>
    simp [report, Standing.applyEntry, Standing.changeTest, hc, Table.change, Backend.withEntry,
      Current.handle, OpenTest.keepsHandle_openStep name start c.test]
  | stepStop status stop details =>
    simp [report, Standing.applyEntry, Standing.changeTest, hc, Table.change, Backend.withEntry,
      Current.handle, OpenTest.keepsHandle_closeStep status stop details c.test]
  | metadata labels parameters =>
    simp [report, Standing.applyEntry, Standing.changeTest, hc, Table.change, Backend.withEntry,
      Current.handle, OpenTest.keepsHandle_describe labels parameters c.test]
  | attachment file =>
    simp [report, Standing.applyEntry, Standing.attach, hc, Table.change, Backend.withEntry,
      Current.handle, OpenTest.keepsHandle_attach _ c.test, next]

end Standing

/-! ### Parts of a replay -/

namespace Standing

variable {st : Standing}

/-- A change of the open test shows in the session only through the number of open steps. -/
private theorem session_changeTest {c : Current} (hc : st.current = some c) {op : Operation}
    {f : OpenTest → OpenTest} (hf : OpenTest.KeepsHandle f) (s : Session) :
    (st.changeTest op f).session s
      = { st.session s with openSteps := (f c.test).openSteps.length } := by
  obtain ⟨t, _ | _⟩ := c <;>
    simp [session, changeTest, hc, unended, stepCount, Current.handle, hf t]

/-- An attachment does not show in the session. -/
private theorem session_attach {c : Current} (hc : st.current = some c) (file : Attachment)
    (s : Session) :
    (st.attach file).session s = { st.session s with openSteps := c.test.openSteps.length } := by
  obtain ⟨⟨r, _ | ⟨step, rest⟩⟩, _ | _⟩ := c <;>
    simp [session, attach, hc, unended, stepCount, Current.handle, OpenTest.attach]

/-- What a fixture says does not show in the session. -/
private theorem session_updateFixture (f : FixtureResult → FixtureResult) (s : Session) :
    (st.updateFixture f).session s = st.session s := by
  cases hc : st.running <;> simp [updateFixture, hc, session, unended, stepCount]

/-- The session forgets the fixture that has stopped. -/
private theorem session_stopFixture {h : Handle} {rest : List Handle} (hc : st.running = h :: rest)
    (stop duration : Option Int) (s : Session) :
    (st.stopFixture stop duration).session s = { st.session s with fixtures := rest } := by
  simp only [stopFixture, hc]
  rfl

end Standing

namespace Machine

variable {isAfterAll : String → Bool} {synchronised : Bool} {p : Pass Backend} {st : Standing}

/-- An operation of the report leaves the session alone. -/
theorem runs_call {α : Type} {act : Reporting α} {s : Session} {b b' : Backend} {a : α}
    (h : Runs act b a b') : Runs (call act : Replay Backend ReportError α) ⟨s, b⟩ a ⟨s, b'⟩ := by
  simp only [Runs, call, Reporter.onPart] at *
  rw [h]

/-- Looking at the session changes nothing. -/
theorem runs_session (p : Pass Backend) :
    Runs (session : Replay Backend ReportError Session) p p.session p := rfl

/-- A change of the session leaves the report alone. -/
private theorem runs_changeSession (f : Session → Session) (p : Pass Backend) :
    Runs (changeSession f : Replay Backend ReportError Unit) p () ⟨f p.session, p.world⟩ := rfl

/-- A report takes no notes. -/
theorem runs_remark (r : Remark) (p : Pass Backend) :
    Runs ((Backend.machine isAfterAll synchronised).remark r) p () p := rfl

/-- The replay opens a scope as the standing does. -/
theorem runs_openScope :
    Runs (Backend.machine isAfterAll synchronised).openScope (st.pass p) () (st.openScope.pass p) :=
  .bind (runs_call Standing.runs_startScope) (runs_changeSession _ _)

/-- The replay closes the innermost scope as the standing does, or does nothing without one. -/
private theorem runs_closeScope (hm : p.world.destination = .memory) (hs : st.Sound) :
    Runs (Backend.machine isAfterAll synchronised).closeScope (st.pass p) ()
      (st.closeScope.pass p) := by
  refine .bind (runs_session _) ?_
  cases hc : st.scopes with
  | nil =>
    simp only [Standing.pass, Standing.session, Standing.closeScope, hc, List.map_nil]
    exact .pure _ _
  | cons s rest =>
    simp only [Standing.pass, Standing.session, hc, List.map_cons]
    -- the session lets go of the scope, and the report writes it
    refine .bind (runs_changeSession _ _)
      ((runs_call (Standing.runs_writeScope hm hs hc)).endsIn ?_)
    simp only [Standing.closeScope, hc]
    rfl

/-- The replay finalizes the current test as the standing does, whatever the reason it gives. -/
theorem runs_finalizeTest (hm : p.world.destination = .memory) (hs : st.Sound)
    (reason : Finalization) :
    Runs ((Backend.machine isAfterAll synchronised).finalizeTest reason) (st.pass p) ()
      (st.finalize.pass p) := by
  refine .bind (runs_session _) ?_
  cases hc : st.current with
  | none =>
    simp only [Standing.pass, Standing.session, Standing.finalize, hc, Option.map_none]
    exact .pure _ _
  | some c =>
    have hc' : st.closeScope.current = some c := by rw [Standing.current_closeScope, hc]
    have hcurrent : (st.pass p).session.currentTest = some c.handle := by
      simp only [Standing.pass, Standing.session, hc, Option.map_some]
    simp only [hcurrent]
    -- the scope is closed first, and then the test is written
    refine .bind (runs_closeScope hm hs) ?_
    refine .bind (runs_call (Standing.runs_writeTest hm hc')) ?_
    refine .bind (runs_session _) ?_
    obtain ⟨t, ended⟩ := c
    have hend : st.closeScope.writeTest = st.finalize := by
      simp only [Standing.finalize, hc]
    rw [hend]
    -- a test that has ended is no executable any more, so there is none to take away
    cases ended with
    | true =>
      have hexecutables : st.closeScope.unended = [] := by
        simp only [Standing.unended, hc']
      simp only [Standing.session, hexecutables, List.contains_nil, Bool.false_eq_true, if_false]
      refine (runs_changeSession _ _).endsIn ?_
      simp [Standing.pass, Standing.session, Standing.finalize, hc, Standing.writeTest, hc',
        Standing.unended, Standing.stepCount]
    -- a test that has not ended leaves a remark
    | false =>
      have hexecutables : st.closeScope.unended = [t.result.handle] := by
        simp only [Standing.unended, hc']
      simp only [Standing.session, hexecutables, Current.handle, List.contains_cons,
        beq_self_eq_true, Bool.true_or, if_true]
      refine .bind (runs_changeSession _ _) (.bind (runs_remark _ _) ?_)
      refine (runs_changeSession _ _).endsIn ?_
      simp [Standing.pass, Standing.session, Standing.finalize, hc, Standing.writeTest, hc',
        Standing.unended, Standing.stepCount]

/-- A test that starts finalizes the one before and gets a scope of its own. -/
theorem runs_startTest (hm : p.world.destination = .memory) (hs : st.Sound) (name : String)
    (start : Int) :
    Runs ((Backend.machine isAfterAll synchronised).startTest name start) (st.pass p) ()
      ((st.finalize.openScope.beginTest name start).pass p) := by
  have hmoves := (Standing.moves_finalize st).tail (.openScope _)
  have hc : st.finalize.openScope.current = none := Standing.current_finalize st
  have hs' := Standing.Moves.sound hmoves hs
  refine .bind (runs_finalizeTest hm hs _) (.bind runs_openScope (.bind (runs_session _) ?_))
  refine .bind (runs_call (Standing.runs_startTest hs' hc name start)) ?_
  refine (runs_changeSession _ _).endsIn ?_
  simp [Standing.pass, Standing.session, Standing.beginTest, Standing.unended, Standing.stepCount,
    Current.handle, hc, Function.comp_def]

/-- The replay names the current test as the standing does, once it has started and not ended. -/
private theorem runs_nameTest (fullName : String) :
    Runs ((Backend.machine isAfterAll synchronised).nameTest fullName) (st.pass p) ()
      ((st.nameTest fullName).pass p) := by
  refine .bind (runs_session _) ?_
  -- no test at all, one that is still open to changes, and one that has ended
  rcases hc : st.current with _ | ⟨t, _ | _⟩
  · simp only [Standing.pass, Standing.session, Standing.nameTest, Standing.unended, hc]
    exact .pure _ _
  · have hexecutables : (st.pass p).session.executables = [t.result.handle] := by
      simp only [Standing.pass, Standing.session, Standing.unended, hc]
    simp only [hexecutables]
    have hcall := Standing.runs_updateTest (b := p.world) hc rfl
      (f := fun r => { r with fullName := some fullName }) fun _ => rfl
    refine (runs_call hcall).endsIn ?_
    simp [Standing.pass, Standing.session, Standing.nameTest, Standing.changeTest, hc,
      Standing.unended, Standing.stepCount, Current.handle, OpenTest.update]
  · simp only [Standing.pass, Standing.session, Standing.nameTest, Standing.unended, hc]
    exact .pure _ _

/-- Steps close one by one while the session counts them down. -/
private theorem runs_closeSteps (hm : p.world.destination = .memory) {c : Current}
    (hc : st.current = some c) (status : Status) (stop : Int) {n : Nat}
    (hn : c.test.openSteps.length = n) :
    Runs ((Backend.machine isAfterAll synchronised).closeSteps c.handle status stop n)
      ⟨st.endingSession p.session, st.report p.world⟩ ()
      ⟨(st.closeSteps status stop n).endingSession p.session,
        (st.closeSteps status stop n).report p.world⟩ := by
  induction n generalizing st c with
  | zero => exact .pure _ _
  | succ n ih =>
    have hc' := Standing.current_changeTest hc .applyMessages (·.closeStep status stop none)
    have hn' : (c.test.closeStep status stop none).openSteps.length = n := by
      rw [OpenTest.length_closeStep, hn]
      omega
    -- a step is closed like one whose stop was in the log
    have hcall := Standing.runs_applyEntry hm hc (.stepStop status stop none)
    refine .bind (runs_call hcall) (.bind (runs_changeSession _ _) (.bind (runs_remark _ _) ?_))
    -- the counted session is the one of the test with a step less
    have hsession : { st.endingSession p.session with openSteps := n }
        = (st.changeTest .applyMessages (·.closeStep status stop none)).endingSession
            p.session := by
      simp [Standing.endingSession, Standing.session, Standing.changeTest, hc, Standing.stepCount,
        hn', Current.handle, OpenTest.keepsHandle_closeStep status stop none c.test]
    -- the next step is closed on the same handle
    have hhandle : (⟨c.test.closeStep status stop none, c.ended⟩ : Current).handle = c.handle :=
      OpenTest.keepsHandle_closeStep status stop none c.test
    have hrest := ih hc' hn'
    rw [← hsession, hhandle] at hrest
    exact hrest

/-- The steps left open by a test that ends are closed one by one, innermost first. -/
private theorem runs_closeOpenSteps (hm : p.world.destination = .memory) {c : Current}
    (hc : st.current = some c) (status : Status) (stop : Int) :
    Runs ((Backend.machine isAfterAll synchronised).closeOpenSteps status stop)
      ⟨st.endingSession p.session, st.report p.world⟩ ()
      ⟨(st.closeSteps status stop c.test.openSteps.length).endingSession p.session,
        (st.closeSteps status stop c.test.openSteps.length).report p.world⟩ := by
  refine .bind (runs_session _) ?_
  have hcurrent : (st.endingSession p.session).currentTest = some c.handle := by
    simp only [Standing.endingSession, Standing.session, hc, Option.map_some]
  have hcount : (st.endingSession p.session).openSteps = c.test.openSteps.length := by
    simp only [Standing.endingSession, Standing.session, Standing.stepCount, hc]
  simp only [hcurrent, hcount]
  exact runs_closeSteps hm hc status stop rfl

/-- The replay ends the current test as the standing does, with the steps it left open. -/
private theorem runs_endTest (hm : p.world.destination = .memory) (hs : st.Sound) (e : TestEnding)
    (isLast : Bool) :
    Runs ((Backend.machine isAfterAll synchronised).endTest e isLast) (st.pass p) ()
      ((st.dispatch isAfterAll isLast (.testEnd e)).pass p) := by
  refine .bind (runs_session _) ?_
  by_cases hunended : st.unended = []
  -- no test runs, so the ending is passed over
  · have hexecutables : (st.pass p).session.executables = [] := hunended
    simp only [hexecutables, Standing.dispatch_testEnd_of_unended hunended]
    exact .pure _ _
  · obtain ⟨t, hc⟩ := Standing.current_of_unended hunended
    have hexecutables : (st.pass p).session.executables = [t.result.handle] := by
      simp only [Standing.pass, Standing.session, Standing.unended, hc]
    simp only [hexecutables]
    refine .bind (runs_changeSession _ _) (.bind (runs_closeOpenSteps hm hc e.status e.stop) ?_)
    -- steps that close leave the test open under its handle, and so does the update
    have hhandle := OpenTest.keepsHandle_closeSteps e.status e.stop t.openSteps.length t
    have hclosed := Standing.current_closeSteps hc e.status e.stop t.openSteps.length
    have hupdated := Standing.current_changeTest hclosed .updateTest (·.update (·.ended e))
    have hupdate := Standing.runs_updateTest (b := p.world) hclosed hhandle (f := (·.ended e))
      fun _ => rfl
    have hstop := Standing.runs_stopTest (b := p.world) hupdated hhandle (some e.stop) e.duration
    refine .bind (runs_call hupdate) (.bind (runs_call hstop) ?_)
    -- the session has let go of the test first, the standing does so when it stops it
    have hsession : (st.closeSteps e.status e.stop t.openSteps.length).endingSession p.session
        = (st.endTest e).session p.session := by
      simp [Standing.endingSession, Standing.session, Standing.endTest, Standing.changeTest,
        Standing.stopTest, hc, hclosed, Standing.unended, Standing.stepCount, Current.handle,
        OpenTest.update, TestResult.ended, TestResult.stopped]
    have hended : st.endTest e = ((st.closeSteps e.status e.stop t.openSteps.length).changeTest
        .updateTest (·.update (·.ended e))).stopTest (some e.stop) e.duration := by
      simp only [Standing.endTest, hc]
    rw [hsession, ← hended]
    -- the last message finalizes the test right away
    cases isLast with
    | false => exact .pure _ _
    | true =>
      have hfinalizes : st.finalizes (.testEnd e) = true := by
        simp [Standing.finalizes, hunended]
      simp only [Standing.dispatch, hfinalizes, Bool.and_self, if_true]
      exact runs_finalizeTest hm (Standing.Moves.sound (Standing.moves_endTest e st) hs) _

/-- A suite that starts finalizes the current test and opens a scope. -/
private theorem runs_startSuite (hm : p.world.destination = .memory) (hs : st.Sound) :
    Runs (Backend.machine isAfterAll synchronised).startSuite (st.pass p) ()
      (st.finalize.openScope.pass p) :=
  .bind (runs_finalizeTest hm hs _) runs_openScope

/-- A suite that ends finalizes the current test and closes its scope. -/
private theorem runs_endSuite (hm : p.world.destination = .memory) (hs : st.Sound) (isLast : Bool) :
    Runs ((Backend.machine isAfterAll synchronised).endSuite isLast) (st.pass p) ()
      ((st.dispatch isAfterAll isLast .suiteEnd).pass p) := by
  refine .bind (runs_closeScope hm hs) ?_
  cases isLast with
  | false => exact .pure _ _
  | true => exact runs_finalizeTest hm ((Standing.Move.closeScope st).sound hs) _

/-- A hook in a run of tests leaves the open test alone. -/
private theorem runs_startHook_of_not_isAfterAll (hs : st.Sound) {name : String}
    (hname : isAfterAll name = false) (kind : HookKind) (start : Int) :
    Runs ((Backend.machine isAfterAll synchronised).startHook name kind start) (st.pass p) ()
      ((st.startFixture kind name start).pass p) := by
  simp only [Machine.startHook, Backend.machine, hname, Bool.false_eq_true, if_false]
  refine .bind (runs_session _) ?_
  -- without a scope the report declines, and the replay remarks on it
  cases hc : st.scopes with
  | nil =>
    refine .bind (runs_call (Standing.runs_startFixture_nil hc kind name start)) ?_
    simp only [Standing.startFixture, hc]
    exact runs_remark (.fixtureDeclined name) _
  | cons s rest =>
    refine .bind (runs_call (Standing.runs_startFixture hs hc kind name start)) ?_
    refine (runs_changeSession _ _).endsIn ?_
    simp [Standing.pass, Standing.session, Standing.startFixture, hc, Standing.unended,
      Standing.stepCount]

/-- A hook that starts runs as a fixture, after finalizing the test if its name says so. -/
private theorem runs_startHook (hm : p.world.destination = .memory) (hs : st.Sound) (name : String)
    (kind : HookKind) (start : Int) :
    Runs ((Backend.machine isAfterAll synchronised).startHook name kind start) (st.pass p) ()
      ((st.startHook isAfterAll name kind start).pass p) := by
  cases hname : isAfterAll name with
  | false =>
    simp only [Standing.startHook, hname, Bool.false_eq_true, if_false]
    exact runs_startHook_of_not_isAfterAll hs hname kind start
  | true =>
    -- once the open test is finalized, the hook starts like one that no name sets apart
    have hs' := Standing.Moves.sound (Standing.moves_finalize st) hs
    have hrest : Runs ((Backend.machine (fun _ => false) synchronised).startHook name kind start)
        (st.finalize.pass p) () ((st.finalize.startFixture kind name start).pass p) :=
      runs_startHook_of_not_isAfterAll hs' rfl kind start
    simp only [Machine.startHook, Standing.startHook, Backend.machine, hname, if_true,
      Bool.false_eq_true, if_false] at *
    exact (runs_finalizeTest hm hs .afterAllHook).bind hrest

/-- A hook that ends stops the fixture that started last. -/
private theorem runs_endHook (hs : st.Sound) (e : HookEnding) :
    Runs ((Backend.machine isAfterAll synchronised).endHook e) (st.pass p) ()
      ((st.endHook e).pass p) := by
  refine .bind (runs_session _) ?_
  cases hc : st.running with
  -- no fixture runs, so the end is passed over
  | nil =>
    simp only [Standing.pass, Standing.session, Standing.endHook, Standing.updateFixture,
      Standing.stopFixture, hc]
    exact .pure _ _
  | cons h rest =>
    have hfixtures : (st.pass p).session.fixtures = h :: rest := hc
    simp only [hfixtures]
    refine .bind (runs_changeSession _ _) (.bind (runs_call (Standing.runs_updateFixture hc _)) ?_)
    have hc' : (st.updateFixture (·.ended e)).running = h :: rest := by
      simp only [Standing.updateFixture, hc]
    -- the session lets go of the fixture before the report stops it
    have hsession : { st.session p.session with fixtures := rest }
        = (st.endHook e).session p.session := by
      rw [Standing.endHook, Standing.session_stopFixture hc', Standing.session_updateFixture]
    have hs' := (Standing.Move.updateFixture st (·.ended e)).sound hs
    refine (runs_call (Standing.runs_stopFixture hs' hc' _ _)).endsIn ?_
    exact congrArg (Pass.mk · _) hsession

/-- The replay applies an entry as the standing does, and passes over it without a test. -/
theorem runs_applyEntry (hm : p.world.destination = .memory) (e : TestEntry) :
    Runs ((Backend.machine isAfterAll synchronised).applyEntry e) (st.pass p) ()
      ((st.applyEntry e).pass p) := by
  refine .bind (runs_session _) ?_
  cases hc : st.current with
  -- with no test open the entry is dropped with a remark
  | none =>
    have hcurrent : (st.pass p).session.currentTest = none := by
      simp only [Standing.pass, Standing.session, hc, Option.map_none]
    simp only [hcurrent, Standing.applyEntry_of_current hc]
    exact runs_remark _ _
  | some c =>
    have hcurrent : (st.pass p).session.currentTest = some c.handle := by
      simp only [Standing.pass, Standing.session, hc, Option.map_some]
    simp only [hcurrent]
    refine .bind (runs_changeSession _ _) ((runs_call (Standing.runs_applyEntry hm hc e)).endsIn ?_)
    -- the count in the session follows the chain of open steps in the report
    have hsession : { st.session p.session with
          openSteps := stepsAfter (st.session p.session).openSteps e }
        = (st.applyEntry e).session p.session := by
      have hcount : (st.session p.session).openSteps = c.test.openSteps.length := by
        simp only [Standing.session, Standing.stepCount, hc]
      rw [hcount]
      cases e with
      | stepStart name start =>
        exact (Standing.session_changeTest hc (OpenTest.keepsHandle_openStep name start) _).symm
      | stepStop status stop details =>
        rw [stepsAfter, ← OpenTest.length_closeStep c.test status stop details]
        exact (Standing.session_changeTest hc
          (OpenTest.keepsHandle_closeStep status stop details) _).symm
      | metadata labels parameters =>
        exact (Standing.session_changeTest hc
          (OpenTest.keepsHandle_describe labels parameters) _).symm
      | attachment file => exact (Standing.session_attach hc file _).symm
    exact congrArg (Pass.mk · _) hsession

/-! ### Messages and logs -/

/-- The replay takes one message as the standing does: the step from which whole logs follow. -/
theorem runs_dispatch (hm : p.world.destination = .memory) (hs : st.Sound) (isLast : Bool)
    (m : Message) :
    Runs ((Backend.machine isAfterAll synchronised).dispatch isLast m) (st.pass p) ()
      ((st.dispatch isAfterAll isLast m).pass p) := by
  -- a message that does not finalize a test is only its own step
  have hplain : st.finalizes m = false →
      st.dispatch isAfterAll isLast m = st.step isAfterAll m := by
    intro hfalse
    simp only [Standing.dispatch, hfalse, Bool.and_false, Bool.false_eq_true, if_false]
  cases m with
  | suiteStart name isFeature => exact hplain rfl ▸ runs_startSuite hm hs
  -- the ends of a suite and of a test may be the last message
  | suiteEnd => exact runs_endSuite hm hs isLast
  | testStart name start => exact hplain rfl ▸ runs_startTest hm hs name start
  | testInfo fullName => exact hplain rfl ▸ runs_nameTest fullName
  | testEnd e => exact runs_endTest hm hs e isLast
  | hookStart name kind start => exact hplain rfl ▸ runs_startHook hm hs name kind start
  | hookEnd e => exact hplain rfl ▸ runs_endHook hs e
  | entry e => exact hplain rfl ▸ runs_applyEntry hm e

/-- The replay takes a whole log as the standing does, by induction on the log. -/
theorem runs_dispatchAll (hm : p.world.destination = .memory) (hs : st.Sound) (log : List Message) :
    Runs ((Backend.machine isAfterAll synchronised).dispatchAll log) (st.pass p) ()
      ((st.dispatchAll isAfterAll log).pass p) := by
  induction log generalizing st with
  | nil => exact .pure _ _
  | cons m rest ih =>
    have hs' := Standing.Moves.sound (Standing.moves_dispatch isAfterAll rest.isEmpty m st) hs
    exact .bind (runs_dispatch hm hs rest.isEmpty m) (ih hs')

/-- The fixtures left running are stopped one after another. -/
private theorem runs_stopFixtures (hs : st.Sound) {fixtures : List Handle}
    (hf : st.running = fixtures) :
    Runs ((Backend.machine isAfterAll synchronised).stopFixtures fixtures) (st.pass p) ()
      ((st.stopFixtures fixtures).pass p) := by
  induction fixtures generalizing st with
  | nil => exact .pure _ _
  -- the fixture on top is stopped, and the others are below it
  | cons h rest ih =>
    have hf' : (st.stopFixture none none).running = rest := by
      simp only [Standing.stopFixture, hf]
    have hs' := (Standing.Move.stopFixture st none none).sound hs
    refine .bind (runs_changeSession _ _) ?_
    refine .bind (runs_call (Standing.runs_stopFixture hs hf _ _)) ?_
    have hrest := ih hs' hf'
    rw [Standing.pass, Standing.session_stopFixture hf] at hrest
    exact .bind (runs_remark _ _) hrest

/-- The scopes left open are closed one after another, from the innermost on. -/
private theorem runs_closeScopes (hm : p.world.destination = .memory) (hs : st.Sound)
    (scopes : List Scope) :
    Runs ((Backend.machine isAfterAll synchronised).closeScopes (scopes.map (·.handle)))
      (st.pass p) () ((st.closeScopes scopes).pass p) := by
  induction scopes generalizing st with
  | nil => exact .pure _ _
  | cons s rest ih =>
    exact .bind (runs_closeScope hm hs) (ih ((Standing.Move.closeScope st).sound hs))

/-- The replay settles as the standing does: the test, the fixtures and the scopes left open. -/
theorem runs_settle (hm : p.world.destination = .memory) (hs : st.Sound) :
    Runs (Backend.machine isAfterAll synchronised).settle (st.pass p) () (st.settle.pass p) := by
  -- fixtures, then the open test, then the scopes that are left
  have hstopped := Standing.Moves.sound (Standing.moves_stopFixtures st.running st) hs
  have hfinalized := Standing.Moves.sound (Standing.moves_finalize _) hstopped
  refine .bind (runs_session _) (.bind (runs_stopFixtures hs rfl) ?_)
  refine .bind (runs_finalizeTest hm hstopped _) (.bind (runs_session _) ?_)
  exact runs_closeScopes hm hfinalized _

end Machine

end Chronicle
