import Chronicle.Proofs.Replay.Refusal
import Chronicle.Proofs.Report.Accord

/-!
# Replays that are broken off and begun again

A replay keeps its session and its report in accord, and a call that is refused cannot break this,
whatever the handler was about: at most the scope that was to be written is lost, or the scope of
the test that was to start stands alone. So the log can be replayed from its start once more, and
whatever the session held open by then is written, too.
-/
namespace Chronicle

open Backend (Accords BreaksOff)

namespace Machine

variable {σ δ : Type} {F : Facade σ δ} {m : Machine σ δ} {lost : List Handle} {extra : Nat}
  {done : List Message}

/-- The session has let go of a fixture that still runs. -/
structure LetsGo (lost : List Handle) (extra : Nat) (done : List Message) (fixture : Handle)
    (rest : List Handle) (s : Session) (b : Backend) : Prop where
  accords : Accords lost extra done s b
  running : fixture ∈ b.running
  fresh : fixture ∉ rest
  fixtures : s.fixtures = rest

/-- The session lets go of a fixture that is still running in the report. -/
private theorem attempts_takeFixture {fixture : Handle} {rest : List Handle} :
    Attempts F (fun s b => Accords lost extra done s b ∧ s.fixtures = fixture :: rest)
      (changeSession fun s => { s with fixtures := rest } : Replay σ δ Unit)
      (fun _ => LetsGo lost extra done fixture rest) (BreaksOff lost extra done) := by
  refine .change ?_
  rintro s b ⟨ha, hs⟩
  obtain ⟨ha', hmem, hnew⟩ := ha.takeFixture hs
  exact ⟨ha', hmem, hnew, rfl⟩

section

variable (hr : m.reporter.Serves F)

include hr

/-- A call on what is open. Only two operations leave something behind when they are refused. -/
private theorem attempts_call {α : Type} {I : Session → Backend → Prop}
    {Q : α → Session → Backend → Prop} (c : Call α) (hscope : c.operation ≠ .writeScope)
    (htest : c.operation ≠ .startTest) (hI : ∀ s b, I s b → Accords lost extra done s b)
    (h : ∀ s b, I s b → ∃ a b', Runs (c.run Backend.reporter) b a b' ∧ Q a s b') :
    Attempts F I (call (c.run m.reporter)) Q (BreaksOff lost extra done) :=
  .call hr c h fun s b hs => (hI s b hs).breaksOff hscope htest

/-! ### Calls -/

/-- The session has let go of a test by the time it is written. -/
private theorem attempts_writeTest (test : Handle) :
    Attempts F (fun s b => Accords lost extra done s b ∧ s.currentTest = some test)
      (call (m.reporter.writeTest test))
      (fun _ s b => (s.executables = [] ∨ s.executables = [test])
        ∧ Accords lost extra done s.withoutTest b)
      (BreaksOff lost extra done) := by
  refine attempts_call hr (.writeTest test) nofun nofun (fun _ _ ha => ha.1) ?_
  rintro s b ⟨ha, hc⟩
  obtain ⟨b', hruns, ha'⟩ := ha.writeTest hc
  have hexecutables := ha.executables
  rw [hc] at hexecutables
  exact ⟨(), b', hruns, hexecutables, ha'⟩

/-- An update that keeps the start of the current test keeps the accord. -/
private theorem attempts_updateTest (test : Handle) {f : TestResult → TestResult}
    (hf : OpenTest.KeepsStart (·.update f)) :
    Attempts F (fun s b => Accords lost extra done s b ∧ s.currentTest = some test)
      (call (m.reporter.updateTest test f))
      (fun _ s b => Accords lost extra done s b ∧ s.currentTest = some test)
      (BreaksOff lost extra done) := by
  refine attempts_call hr (.updateTest test f) nofun nofun (fun _ _ ha => ha.1) ?_
  rintro s b ⟨ha, hc⟩
  obtain ⟨b', hruns, ha'⟩ := ha.updateTest hc hf
  exact ⟨(), b', hruns, ha', hc⟩

/-- So does its stop. -/
private theorem attempts_stopTest (test : Handle) (stop duration : Option Int) :
    Attempts F (fun s b => Accords lost extra done s b ∧ s.currentTest = some test)
      (call (m.reporter.stopTest test stop duration)) (fun _ => Accords lost extra done)
      (BreaksOff lost extra done) := by
  refine attempts_call hr (.stopTest test stop duration) nofun nofun (fun _ _ ha => ha.1) ?_
  rintro s b ⟨ha, hc⟩
  obtain ⟨b', hruns, ha'⟩ := ha.stopTest hc stop duration
  exact ⟨(), b', hruns, ha'⟩

/-- So does an entry. -/
private theorem attempts_applyMessages (test : Handle) (e : TestEntry) :
    Attempts F (fun s b => Accords lost extra done s b ∧ s.currentTest = some test)
      (call (m.reporter.applyMessages test [e]))
      (fun _ s b => Accords lost extra done s b ∧ s.currentTest = some test)
      (BreaksOff lost extra done) := by
  refine attempts_call hr (.applyMessages test [e]) nofun nofun (fun _ _ ha => ha.1) ?_
  rintro s b ⟨ha, hc⟩
  obtain ⟨b', hruns, ha'⟩ := ha.applyMessages hc e
  exact ⟨(), b', hruns, ha', hc⟩

/-- The fixture that the session has let go of can still be changed. -/
private theorem attempts_updateFixture (fixture : Handle) (rest : List Handle)
    (ending : HookEnding) :
    Attempts F (LetsGo lost extra done fixture rest)
      (call (m.reporter.updateFixture fixture (·.ended ending)))
      (fun _ => LetsGo lost extra done fixture rest) (BreaksOff lost extra done) := by
  refine attempts_call hr (.updateFixture fixture (·.ended ending)) nofun nofun
    (fun _ _ ha => ha.accords) ?_
  rintro s b ⟨ha, hmem, hnew, hs⟩
  obtain ⟨b', hruns, ha', hrunning⟩ := ha.updateFixture hmem ending
  exact ⟨(), b', hruns, ha', hrunning ▸ hmem, hnew, hs⟩

/-- It can still be stopped, and then nothing is left of it. -/
private theorem attempts_stopFixture (fixture : Handle) (rest : List Handle)
    (stop duration : Option Int) :
    Attempts F (LetsGo lost extra done fixture rest)
      (call (m.reporter.stopFixture fixture stop duration))
      (fun _ s b => Accords lost extra done s b ∧ s.fixtures = rest)
      (BreaksOff lost extra done) := by
  refine attempts_call hr (.stopFixture fixture stop duration) nofun nofun
    (fun _ _ ha => ha.accords) ?_
  rintro s b ⟨ha, hmem, hnew, rfl⟩
  obtain ⟨b', hruns, ha'⟩ := ha.stopFixture hmem hnew stop duration
  exact ⟨(), b', hruns, ha', rfl⟩

/-! ### Scopes -/

/-- One more scope is open; if the call is refused, none is. -/
private theorem attempts_openScope (c : Option Handle) :
    Attempts F (fun s b => Accords lost extra done s b ∧ s.currentTest = c) m.openScope
      (fun _ s b => Accords lost (extra + 1) done s b ∧ s.currentTest = c)
      (BreaksOff lost extra done) := by
  have hstart : Attempts F (fun s b => Accords lost extra done s b ∧ s.currentTest = c)
      (call m.reporter.startScope)
      (fun h s b => Accords lost (extra + 1) done { s with scopes := h :: s.scopes } b
        ∧ s.currentTest = c)
      (BreaksOff lost extra done) := by
    -- the scope is new to both, the session and the report
    refine attempts_call hr .startScope nofun nofun (fun _ _ ha => ha.1) ?_
    rintro s b ⟨ha, hc⟩
    obtain ⟨h, b', hruns, ha'⟩ := ha.startScope
    exact ⟨h, b', hruns, ha', hc⟩
  exact .bind hstart fun h => .change fun s b ha => ha

/-- The scope is taken from the session first. If it is not written then, it is lost. -/
private theorem attempts_closeScope (K : Option Handle → List Handle → Prop) :
    Attempts F (fun s b => Accords lost extra done s b ∧ K s.currentTest s.scopes.tail) m.closeScope
      (fun _ s b => Accords lost extra done s b ∧ K s.currentTest s.scopes)
      (BreaksOff lost extra done) := by
  refine .session fun s₀ => ?_
  cases hs : s₀.scopes with
  | nil =>
    refine .pure () ?_
    rintro s b ⟨rfl, ha, hK⟩
    rw [hs] at hK ⊢
    exact ⟨ha, hK⟩
  | cons scope rest =>
    -- the session lets go of the scope first, so it is lost if the call is refused
    have htake : Attempts F
        (fun s b => s = s₀ ∧ Accords lost extra done s b ∧ K s.currentTest s.scopes.tail)
        (changeSession fun s => { s with scopes := rest })
        (fun _ s b => Accords (scope :: lost) extra done s b ∧ K s.currentTest s.scopes)
        (BreaksOff lost extra done) := by
      refine .change ?_
      rintro s b ⟨rfl, ha, hK⟩
      have hscopes := ha.scopes
      rw [hs] at hscopes hK
      exact ⟨{ ha with scopes := hscopes.trans List.perm_middle.symm }, hK⟩
    refine .bind htake fun _ => .call hr (.writeScope scope) ?_ ?_
    -- the call goes through, and the report lets go of it too
    · rintro s b ⟨ha, hK⟩
      obtain ⟨b', hruns, ha'⟩ := ha.writeScope
      exact ⟨(), b', hruns, ha', hK⟩
    -- the call is refused, and the scope stays in the report
    · rintro s b ⟨ha, -⟩
      exact ⟨[scope], rfl, ha⟩

/-! ### Tests -/

/-- A test is finalized as far as the calls go, and the accord holds at each of them. -/
private theorem attempts_finalizeTest (reason : Finalization) :
    Attempts F (Accords lost extra done) (m.finalizeTest reason)
      (fun _ s b => Accords lost extra done s b ∧ s.currentTest = none)
      (BreaksOff lost extra done) := by
  refine .session fun s₀ => ?_
  cases hc : s₀.currentTest with
  -- there is nothing to finalize
  | none =>
    refine .pure () ?_
    rintro s b ⟨rfl, ha⟩
    exact ⟨ha, hc⟩
  | some test =>
    -- closing the scope leaves the test the current one
    have hclose : Attempts F (fun s b => s = s₀ ∧ Accords lost extra done s b) m.closeScope
        (fun _ s b => Accords lost extra done s b ∧ s.currentTest = some test)
        (BreaksOff lost extra done) := by
      refine (attempts_closeScope hr fun c _ => c = some test).imp ?_ fun _ _ _ ha => ha
      rintro s b ⟨rfl, ha⟩
      exact ⟨ha, hc⟩
    -- the test has been written, so the session may forget it
    have hforget : Attempts F
        (fun s b => s.executables = [] ∧ Accords lost extra done s.withoutTest b)
        (changeSession fun s => { s with currentTest := none, openSteps := 0 })
        (fun _ s b => Accords lost extra done s b ∧ s.currentTest = none)
        (BreaksOff lost extra done) := by
      refine .change ?_
      rintro s b ⟨hexecutables, ha⟩
      rw [Session.withoutTest, ← hexecutables] at ha
      exact ⟨ha, rfl⟩
    refine .bind hclose fun _ => .bind (attempts_writeTest hr test) fun _ =>
      .session fun s₁ => .ite (fun hmem => ?_) fun hmem => ?_
    · -- the test has not ended, so it is still to be taken from those that run
      have htake : Attempts F (fun s b => s = s₁ ∧ (s.executables = [] ∨ s.executables = [test])
            ∧ Accords lost extra done s.withoutTest b)
          (changeSession fun s => { s with executables := s.executables.erase test })
          (fun _ s b => s.executables = [] ∧ Accords lost extra done s.withoutTest b)
          (BreaksOff lost extra done) := by
        refine .change ?_
        rintro s b ⟨rfl, hexecutables, ha⟩
        refine ⟨?_, ha⟩
        rcases hexecutables with h | h <;> simp [h]
      exact .bind htake fun _ => .bind (.remark hr _) fun _ => hforget
    -- the test has ended, so it is not among those that run
    · refine hforget.imp ?_ fun _ _ _ ha => ha
      rintro s b ⟨rfl, hexecutables, ha⟩
      refine ⟨hexecutables.resolve_right fun h => ?_, ha⟩
      simp [h] at hmem

/-- A test that starts in a scope of its own; if its start is refused, the scope stands alone. -/
private theorem attempts_startTest (name : String) (start : Int) :
    Attempts F (Accords lost extra done) (m.startTest name start)
      (fun _ => Accords lost extra (done ++ [.testStart name start]))
      (BreaksOff lost extra done) := by
  -- the scope has been opened, so a refusal leaves one scope too many
  have hstart : ∀ s₀ : Session, Attempts F
      (fun s b => s = s₀ ∧ Accords lost (extra + 1) done s b ∧ s.currentTest = none)
      (call (m.reporter.startTest name start s₀.scopes.reverse))
      (fun h s b => Accords lost extra (done ++ [.testStart name start])
        { s with executables := h :: s.executables, currentTest := some h, openSteps := 0 } b)
      (BreaksOff lost extra done) := by
    intro s₀
    refine .call hr (.startTest name start s₀.scopes.reverse) ?_ ?_
    -- the call goes through, and the test is counted as done
    · rintro s b ⟨rfl, ha, hc⟩
      exact ha.startTest hc name start _
    · rintro s b ⟨rfl, ha, -⟩
      exact ⟨[], rfl, ha⟩
  refine .bind (attempts_finalizeTest hr _) fun _ => .bind (attempts_openScope hr none) fun _ => ?_
  exact .session fun s₀ => .bind (hstart s₀) fun h => .change fun s b ha => ha

/-- The current test is named, if there is one to name. -/
private theorem attempts_nameTest (fullName : String) :
    Attempts F (Accords lost extra done) (m.nameTest fullName)
      (fun _ => Accords lost extra done) (BreaksOff lost extra done) := by
  refine .session fun s₀ => ?_
  cases hs : s₀.executables with
  | nil => exact .pure () fun s b ha => ha.2
  | cons test rest =>
    have hf : OpenTest.KeepsStart (·.update fun r => { r with fullName := some fullName }) :=
      ⟨fun _ => rfl, fun _ => rfl, fun _ => rfl⟩
    refine (attempts_updateTest hr test hf).imp ?_ fun _ _ _ ha => ha.1
    rintro s b ⟨rfl, ha⟩
    exact ⟨ha, (ha.eq_of_executables hs).1⟩

/-- Steps are closed one by one, and at each of them the call can be refused. -/
private theorem attempts_closeSteps (test : Handle) (status : Status) (stop : Int) (n : Nat) :
    Attempts F (fun s b => Accords lost extra done s b ∧ s.currentTest = some test)
      (m.closeSteps test status stop n)
      (fun _ s b => Accords lost extra done s b ∧ s.currentTest = some test)
      (BreaksOff lost extra done) := by
  induction n with
  | zero => exact .pure () fun s b ha => ha
  | succ n ih =>
    refine .bind (attempts_applyMessages hr test _) fun _ => .bind (.change ?_) fun _ =>
      .bind (.remark hr _) fun _ => ih
    rintro s b ⟨ha, hc⟩
    exact ⟨{ ha with }, hc⟩

/-- So are the steps left open. -/
private theorem attempts_closeOpenSteps (test : Handle) (status : Status) (stop : Int) :
    Attempts F (fun s b => Accords lost extra done s b ∧ s.currentTest = some test)
      (m.closeOpenSteps status stop)
      (fun _ s b => Accords lost extra done s b ∧ s.currentTest = some test)
      (BreaksOff lost extra done) := by
  refine .session fun s₀ p b hshows ⟨hs, ha, hc⟩ => ?_
  rw [← hs, hc]
  exact attempts_closeSteps hr test status stop p.session.openSteps hshows ⟨ha, hc⟩

/-- A test ends in several calls, each of which can be refused. -/
private theorem attempts_endTest (ending : TestEnding) (isLast : Bool) :
    Attempts F (Accords lost extra done) (m.endTest ending isLast)
      (fun _ => Accords lost extra done) (BreaksOff lost extra done) := by
  refine .session fun s₀ => ?_
  cases hs : s₀.executables with
  -- no test runs, so there is nothing to end
  | nil => exact .pure () fun s b ha => ha.2
  | cons test rest =>
    -- the session has let go of the test before the first call
    have htake : Attempts F (fun s b => s = s₀ ∧ Accords lost extra done s b)
        (changeSession fun s => { s with executables := rest })
        (fun _ s b => Accords lost extra done s b ∧ s.currentTest = some test)
        (BreaksOff lost extra done) := by
      refine .change ?_
      rintro s b ⟨rfl, ha⟩
      obtain ⟨hc, hrest⟩ := ha.eq_of_executables hs
      exact ⟨{ ha with executables := .inl hrest }, hc⟩
    -- the ending leaves what the start has set
    have hended : OpenTest.KeepsStart (·.update (·.ended ending)) :=
      ⟨fun _ => rfl, fun _ => rfl, fun _ => rfl⟩
    refine .bind htake fun _ => .bind (attempts_closeOpenSteps hr test _ _) fun _ => ?_
    refine .bind (attempts_updateTest hr test hended) fun _ =>
      .bind (attempts_stopTest hr test _ _) fun _ => .ite (fun _ => ?_) fun _ => ?_
    · exact (attempts_finalizeTest hr _).imp (fun _ _ ha => ha) fun _ _ _ ha => ha.1
    · exact .pure () fun s b ha => ha

/-! ### Suites -/

/-- A suite opens a scope, after the test before it. -/
private theorem attempts_startSuite (name : String) (isFeature : Bool) :
    Attempts F (Accords lost extra done) m.startSuite
      (fun _ => Accords lost extra (done ++ [.suiteStart name isFeature]))
      (BreaksOff lost extra done) := by
  refine .bind (attempts_finalizeTest hr _) fun _ =>
    (attempts_openScope hr none).imp (fun _ _ ha => ha) ?_
  rintro - s b ⟨ha, -⟩
  exact { ha with counts := ha.counts.snoc_suiteStart name isFeature }

/-- A suite closes its scope, after the last test in it. -/
private theorem attempts_endSuite (isLast : Bool) :
    Attempts F (Accords lost extra done) (m.endSuite isLast)
      (fun _ => Accords lost extra done) (BreaksOff lost extra done) := by
  have hclose : Attempts F (Accords lost extra done) m.closeScope
      (fun _ => Accords lost extra done) (BreaksOff lost extra done) :=
    (attempts_closeScope hr fun _ _ => True).imp (fun _ _ ha => ⟨ha, trivial⟩) fun _ _ _ ha => ha.1
  refine .bind hclose fun _ => .ite (fun _ => ?_) fun _ => ?_
  · exact (attempts_finalizeTest hr _).imp (fun _ _ ha => ha) fun _ _ _ ha => ha.1
  · exact .pure () fun s b ha => ha

/-! ### Hooks -/

/-- A fixture starts, is declined, or is refused; only in the first case does the session hold on to
it. -/
private theorem attempts_startFixture (name : String) (kind : HookKind) (start : Int) :
    Attempts F (Accords lost extra done)
      (do match ← call (m.reporter.startFixture (← session).scopes.head? kind name start) with
          | some fixture => changeSession fun s => { s with fixtures := fixture :: s.fixtures }
          | none => m.remark (.fixtureDeclined name))
      (fun _ => Accords lost extra done) (BreaksOff lost extra done) := by
  have hstart : ∀ s₀ : Session, Attempts F (fun s b => s = s₀ ∧ Accords lost extra done s b)
      (call (m.reporter.startFixture s₀.scopes.head? kind name start))
      (fun x s b => match x with
        | some x => Accords lost extra done { s with fixtures := x :: s.fixtures } b
        | none => Accords lost extra done s b)
      (BreaksOff lost extra done) := by
    intro s₀
    refine attempts_call hr (.startFixture s₀.scopes.head? kind name start) nofun nofun
      (fun _ _ ha => ha.2) ?_
    rintro s b ⟨rfl, ha⟩
    -- without a scope the report declines, and both sides stay as they were
    cases hs : s.scopes.head? with
    | none => exact ⟨none, b, Backend.runs_startFixture_none b kind name start, ha⟩
    | some scope =>
      obtain ⟨x, b', hruns, ha'⟩ := ha.startFixture (List.mem_of_head? hs) kind name start
      exact ⟨some x, b', hruns, ha'⟩
  refine .session fun s₀ => .bind (hstart s₀) fun x => ?_
  cases x with
  -- a fixture that is declined leaves a remark only
  | none => exact .remark hr _
  | some x => exact .change fun s b ha => ha

/-- A hook starts a fixture, after the current test if its name says so. -/
private theorem attempts_startHook (name : String) (kind : HookKind) (start : Int) :
    Attempts F (Accords lost extra done) (m.startHook name kind start)
      (fun _ => Accords lost extra done) (BreaksOff lost extra done) := by
  rw [startHook]
  refine .ite (fun _ => .bind (attempts_finalizeTest hr _) fun _ => ?_) fun _ => ?_
  · exact (attempts_startFixture hr name kind start).imp (fun _ _ ha => ha.1) fun _ _ _ ha => ha
  · exact attempts_startFixture hr name kind start

/-- A hook lets go of its fixture, and then changes and stops it. -/
private theorem attempts_endHook (ending : HookEnding) :
    Attempts F (Accords lost extra done) (m.endHook ending)
      (fun _ => Accords lost extra done) (BreaksOff lost extra done) := by
  refine .session fun s₀ => ?_
  cases hs : s₀.fixtures with
  | nil => exact .pure () fun s b ha => ha.2
  | cons fixture rest =>
    -- the session lets go first, so a refused call leaves the fixture running in the report only
    have htake : Attempts F (fun s b => s = s₀ ∧ Accords lost extra done s b)
        (changeSession fun s => { s with fixtures := rest })
        (fun _ => LetsGo lost extra done fixture rest) (BreaksOff lost extra done) := by
      refine attempts_takeFixture.imp ?_ fun _ _ _ ha => ha
      rintro s b ⟨rfl, ha⟩
      exact ⟨ha, hs⟩
    refine .bind htake fun _ => .bind (attempts_updateFixture hr fixture rest ending) fun _ => ?_
    exact (attempts_stopFixture hr fixture rest _ _).imp (fun _ _ ha => ha) fun _ _ _ ha => ha.1

/-! ### Entries -/

/-- An entry is counted by the session before the report applies it. -/
private theorem attempts_applyEntry (e : TestEntry) :
    Attempts F (Accords lost extra done) (m.applyEntry e)
      (fun _ => Accords lost extra done) (BreaksOff lost extra done) := by
  refine .session fun s₀ => ?_
  cases hc : s₀.currentTest with
  -- with no test open the entry is dropped
  | none => exact (Attempts.remark hr _).imp (fun _ _ ha => ha.2) fun _ _ _ ha => ha
  | some test =>
    -- the count of steps has no part in the accord
    have hcount : Attempts F (fun s b => s = s₀ ∧ Accords lost extra done s b)
        (changeSession fun s => { s with openSteps := stepsAfter s.openSteps e })
        (fun _ s b => Accords lost extra done s b ∧ s.currentTest = some test)
        (BreaksOff lost extra done) := by
      refine .change ?_
      rintro s b ⟨rfl, ha⟩
      exact ⟨{ ha with }, hc⟩
    refine .bind hcount fun _ => ?_
    exact (attempts_applyMessages hr test e).imp (fun _ _ ha => ha) fun _ _ _ ha => ha.1

/-! ### Messages and logs -/

/-- A message is counted once its handler has succeeded. -/
private theorem attempts_dispatch (isLast : Bool) (message : Message) :
    Attempts F (Accords lost extra done) (m.dispatch isLast message)
      (fun _ => Accords lost extra (done ++ [message])) (BreaksOff lost extra done) := by
  -- a message that starts nothing leaves the count of starts as it is
  have hsnoc : ∀ {act : Replay σ δ Unit}, message.testStart? = none →
      message.kind.opensScope = false → Attempts F (Accords lost extra done) act
        (fun _ => Accords lost extra done) (BreaksOff lost extra done) →
      Attempts F (Accords lost extra done) act
        (fun _ => Accords lost extra (done ++ [message])) (BreaksOff lost extra done) :=
    fun htest hscope hact => hact.imp (fun _ _ ha => ha) fun _ _ _ ha =>
      { ha with counts := ha.counts.snoc htest hscope }
  cases message with
  -- the two messages that start a scope are counted, and the others are not
  | suiteStart name isFeature => exact attempts_startSuite hr name isFeature
  | testStart name start => exact attempts_startTest hr name start
  | suiteEnd => exact hsnoc rfl rfl (attempts_endSuite hr isLast)
  | testInfo fullName => exact hsnoc rfl rfl (attempts_nameTest hr fullName)
  | testEnd e => exact hsnoc rfl rfl (attempts_endTest hr e isLast)
  | hookStart name kind start => exact hsnoc rfl rfl (attempts_startHook hr name kind start)
  | hookEnd e => exact hsnoc rfl rfl (attempts_endHook hr e)
  | entry e => exact hsnoc rfl (by cases e <;> rfl) (attempts_applyEntry hr e)

/-- All messages are counted, or those before the one whose handler has failed. -/
private theorem attempts_dispatchAll (log : List Message) :
    Attempts F (Accords lost extra done) (m.dispatchAll log)
      (fun _ => Accords lost extra (done ++ log))
      fun op s b => ∃ read, read <+: log ∧ BreaksOff lost extra (done ++ read) op s b := by
  -- by induction on the log: what has been read so far grows by one message
  induction log generalizing done with
  | nil =>
    rw [List.append_nil]
    exact .pure () fun s b ha => ha
  | cons message rest ih =>
    refine .bind ((attempts_dispatch hr rest.isEmpty message).imp_refused fun op s b hb => ?_)
      fun _ => ?_
    -- broken off at this message, of which nothing has been read
    · exact ⟨[], List.nil_prefix, by rwa [List.append_nil]⟩
    · have hassoc : ∀ more, done ++ message :: more = done ++ [message] ++ more := fun more => by
        rw [List.append_assoc, List.singleton_append]
      rw [hassoc rest]
      -- broken off later, so this message has been read
      refine ih.imp_refused fun op s b ⟨read, hread, hb⟩ => ?_
      rw [← hassoc read] at hb
      exact ⟨message :: read, List.cons_prefix_cons.2 ⟨rfl, hread⟩, hb⟩

/-! ### The end of a replay -/

/-- The fixtures left running are stopped, as far as the calls go. -/
private theorem attempts_stopFixtures (fixtures : List Handle) :
    Attempts F (fun s b => Accords lost extra done s b ∧ s.fixtures = fixtures)
      (m.stopFixtures fixtures) (fun _ => Accords lost extra done)
      (BreaksOff lost extra done) := by
  induction fixtures with
  | nil => exact .pure () fun s b ha => ha.1
  | cons fixture rest ih =>
    exact .bind attempts_takeFixture fun _ => .bind (attempts_stopFixture hr fixture rest _ _)
      fun _ => .bind (.remark hr _) fun _ => ih

/-- The scopes left open are closed, as far as the calls go. -/
private theorem attempts_closeScopes (scopes : List Handle) :
    Attempts F (fun s b => Accords lost extra done s b ∧ s.currentTest = none
        ∧ s.scopes.length = scopes.length) (m.closeScopes scopes)
      (fun _ s b => Accords lost extra done s b ∧ s.currentTest = none ∧ s.scopes = [])
      (BreaksOff lost extra done) := by
  induction scopes with
  | nil => exact .pure () fun s b ⟨ha, hc, hs⟩ => ⟨ha, hc, List.length_eq_zero_iff.1 hs⟩
  | cons scope rest ih =>
    refine .bind ((attempts_closeScope hr fun c scopes => c = none
      ∧ scopes.length = rest.length).imp ?_ fun _ _ _ ha => ha) fun _ => ih
    rintro s b ⟨ha, hc, hs⟩
    refine ⟨ha, hc, ?_⟩
    rw [List.length_tail, hs, List.length_cons, Nat.add_sub_cancel]

/-- Settling leaves neither a test nor a scope, as far as the calls go. -/
private theorem attempts_settle :
    Attempts F (Accords lost extra done) m.settle
      (fun _ s b => Accords lost extra done s b ∧ s.currentTest = none ∧ s.scopes = [])
      (BreaksOff lost extra done) := by
  refine .session fun s₀ => .bind ((attempts_stopFixtures hr s₀.fixtures).imp ?_ fun _ _ _ ha => ha)
    fun _ => .bind (attempts_finalizeTest hr _) fun _ => .session fun s₁ =>
      (attempts_closeScopes hr s₁.scopes).imp ?_ fun _ _ _ ha => ha
  · rintro s b ⟨rfl, ha⟩
    exact ⟨ha, rfl⟩
  · rintro s b ⟨rfl, ha, hc⟩
    exact ⟨ha, hc, rfl⟩

/-- A replay counts the messages of its log. If a call is refused, it has counted some of them, and
the log can be replayed from its start once more. -/
theorem attempts_replay (log : List Message) :
    Attempts F (fun s b => Accords lost extra done s b ∧ s.log = log) m.replay
      (fun _ s b => Accords lost extra (done ++ log) s b ∧ s.currentTest = none ∧ s.scopes = [])
      fun op s b => ∃ read, read <+: log ∧ BreaksOff lost extra (done ++ read) op s b := by
  refine .session fun s₀ p b hshows ⟨hs, ha, hlog⟩ => ?_
  obtain rfl : s₀.log = log := hs ▸ hlog
  refine Attempts.bind (attempts_dispatchAll hr s₀.log) (fun _ => .bind
    ((attempts_settle hr).imp_refused fun op s b hb => ?_) fun _ => .remark hr _) hshows ha
  exact ⟨s₀.log, List.prefix_rfl, hb⟩

end

end Machine

end Chronicle
