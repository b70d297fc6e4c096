import Chronicle.Proofs.Follows
import Chronicle.Session.Registry

/-!
# Replays that follow others

Replaying looks at a reporter only through what its calls return. So if each call of one reporter
follows that of another, then a replay into the first follows the same replay into the second:
`Machine.CallsFollow.replay`. So does draining a registry: `Machine.CallsFollow.drainAll`.
-/
namespace Chronicle

variable {σ τ ε δ : Type} {mayFail : Prop} {R : σ → τ → Prop}

/-- Whether a change of a test leaves its handle alone, and all that its steps and attachments
say. -/
structure TestResult.KeepsContents (f : TestResult → TestResult) : Prop where
  handle : ∀ r, (f r).handle = r.handle
  steps : ∀ r, (f r).steps = r.steps
  attachments : ∀ r, (f r).attachments = r.attachments

/-- Whether a change of a fixture gives it another outcome and does nothing else. -/
def FixtureResult.ChangesOutcome (f : FixtureResult → FixtureResult) : Prop :=
  ∀ r, ∃ status details, f r = { r with status := status, details := details }

/-- Each call that a replay makes follows that of another reporter. A replay changes tests and
fixtures only in ways that keep what they are, and stops a fixture as soon as it has changed it. It
hands on one entry at a time. -/
structure Reporter.CallsFollow (mayFail : Prop) (R : σ → τ → Prop) (r : Reporter σ ε)
    (r' : Reporter τ δ) : Prop where
  startScope : Follows mayFail R r.startScope r'.startScope
  writeScope : ∀ h, Follows mayFail R (r.writeScope h) (r'.writeScope h)
  startTest : ∀ name start scopes,
    Follows mayFail R (r.startTest name start scopes) (r'.startTest name start scopes)
  updateTest : ∀ h f, TestResult.KeepsContents f →
    Follows mayFail R (r.updateTest h f) (r'.updateTest h f)
  stopTest : ∀ h stop duration,
    Follows mayFail R (r.stopTest h stop duration) (r'.stopTest h stop duration)
  writeTest : ∀ h, Follows mayFail R (r.writeTest h) (r'.writeTest h)
  startFixture : ∀ scope kind name start, Follows mayFail R
    (r.startFixture scope kind name start) (r'.startFixture scope kind name start)
  endFixture : ∀ h f stop duration, FixtureResult.ChangesOutcome f →
    Follows mayFail R (do r.updateFixture h f; r.stopFixture h stop duration)
      (do r'.updateFixture h f; r'.stopFixture h stop duration)
  stopFixture : ∀ h stop duration,
    Follows mayFail R (r.stopFixture h stop duration) (r'.stopFixture h stop duration)
  applyEntry : ∀ h e, Follows mayFail R (r.applyMessages h [e]) (r'.applyMessages h [e])
  note : ∀ synchronised n,
    Follows mayFail R (r.note synchronised n) (r'.note synchronised n)

namespace Reporter.CallsFollow

/-- Each reporter follows itself. -/
theorem refl (r : Reporter σ ε) : r.CallsFollow False (· = ·) r :=
  ⟨.refl _, fun _ => .refl _, fun _ _ _ => .refl _, fun _ _ _ => .refl _, fun _ _ _ => .refl _,
    fun _ => .refl _, fun _ _ _ _ => .refl _, fun _ _ _ _ _ => .refl _, fun _ _ _ => .refl _,
    fun _ _ => .refl _, fun _ _ => .refl _⟩

variable {ρ π ε' δ' : Type} {Q : ρ → π → Prop} {get : ρ → σ} {set : σ → ρ → ρ} {get' : π → τ}
  {set' : τ → π → π} {r : Reporter σ ε} {r' : Reporter τ δ}

/-- Reporters follow one another on parts of states if they do so by themselves. -/
theorem extend (h : r.CallsFollow mayFail R r') (hpart : IsPart get set) (hpart' : IsPart get' set')
    (hget : ∀ p q, Q p q → R (get p) (get' q))
    (hset : ∀ p q s t, Q p q → R s t → Q (set s p) (set' t q)) (wrap : ε → ε') (wrap' : δ → δ')
    {note : Bool → Note → EStateM ε' ρ Unit} {note' : Bool → Note → EStateM δ' π Unit}
    (hnote : ∀ synchronised n, Follows mayFail Q (note synchronised n) (note' synchronised n)) :
    (r.extend get set wrap (fun _ => pure ()) note).CallsFollow mayFail Q
      (r'.extend get' set' wrap' (fun _ => pure ()) note') := by
  -- nothing goes before a call, so it is the call on the part
  have hcall : ∀ {α : Type} {act : EStateM ε σ α} {act' : EStateM δ τ α},
      Follows mayFail R act act' → Follows mayFail Q
        (do pure (); onPart get set wrap act) (do pure (); onPart get' set' wrap' act') :=
    fun hact => .bind (.pure ()) fun _ => .onPart hget hset hact
  -- the end of a fixture is two calls, and both are on the part
  have hend : ∀ x f stop duration, FixtureResult.ChangesOutcome f → Follows mayFail Q
      (do onPart get set wrap (r.updateFixture x f)
          onPart get set wrap (r.stopFixture x stop duration))
      (do onPart get' set' wrap' (r'.updateFixture x f)
          onPart get' set' wrap' (r'.stopFixture x stop duration)) := by
    intro x f stop duration hf
    rw [hpart.onPart_bind, hpart'.onPart_bind]
    exact .onPart hget hset (h.endFixture x f stop duration hf)
  exact
    { startScope := hcall h.startScope
      writeScope := fun scope => hcall (h.writeScope scope)
      startTest := fun name start scopes => hcall (h.startTest name start scopes)
      updateTest := fun test f hf => hcall (h.updateTest test f hf)
      stopTest := fun test stop duration => hcall (h.stopTest test stop duration)
      writeTest := fun test => hcall (h.writeTest test)
      startFixture := fun scope kind name start => hcall (h.startFixture scope kind name start)
      endFixture := hend
      stopFixture := fun fixture stop duration => hcall (h.stopFixture fixture stop duration)
      applyEntry := fun test e => hcall (h.applyEntry test e)
      note := hnote }

end Reporter.CallsFollow

/-- The same replay of the same session, on states that are related. -/
structure Pass.Related (R : σ → τ → Prop) (p : Pass σ) (q : Pass τ) : Prop where
  session : p.session = q.session
  world : R p.world q.world

/-- One machine follows another. -/
structure Machine.CallsFollow (mayFail : Prop) (R : σ → τ → Prop) (m : Machine σ ε)
    (m' : Machine τ δ) : Prop where
  reporter : m.reporter.CallsFollow mayFail R m'.reporter
  isAfterAll : m.isAfterAll = m'.isAfterAll
  synchronised : m.synchronised = m'.synchronised

namespace Machine

variable {m : Machine σ ε} {m' : Machine τ δ}

/-! ### Parts of a replay -/

/-- A call from within a replay follows as the call itself does. -/
private theorem follows_call {α : Type} {act : EStateM ε σ α} {act' : EStateM δ τ α}
    (h : Follows mayFail R act act') :
    Follows mayFail (Pass.Related R) (call act) (call act') :=
  .onPart (fun _ _ hpq => hpq.world) (fun _ _ _ _ hpq hst => ⟨hpq.session, hst⟩) h

/-- Two calls in a row are one call. -/
private theorem call_bind {α β : Type} (act : EStateM ε σ α) (next : α → EStateM ε σ β) :
    (call act >>= fun a => call (next a)) = call (act >>= next) := by
  have hpart : Reporter.IsPart (Pass.world (σ := σ)) fun world p => { p with world := world } :=
    ⟨fun _ _ => rfl, fun _ _ _ => rfl⟩
  exact hpart.onPart_bind id act next

/-- The session is looked at alike. -/
private theorem follows_session :
    Follows mayFail (Pass.Related R) (session : Replay σ ε Session)
      (session : Replay τ δ Session) := by
  intro p q hpq s q' hruns
  cases hruns
  exact .inl ⟨p, by rw [← hpq.session]; rfl, hpq⟩

/-- The session is changed alike. -/
private theorem follows_changeSession (f : Session → Session) :
    Follows mayFail (Pass.Related R) (changeSession f : Replay σ ε Unit)
      (changeSession f : Replay τ δ Unit) :=
  .change fun _ _ hpq => ⟨congrArg f hpq.session, hpq.world⟩

namespace CallsFollow

variable (h : m.CallsFollow mayFail R m')

include h

/-- A remark follows, since it depends on the replay and not on what the reporter has returned. -/
theorem remark (r : Remark) :
    Follows mayFail (Pass.Related R) (m.remark r) (m'.remark r) := by
  refine .bind follows_session fun s => ?_
  rw [h.synchronised]
  exact follows_call (h.reporter.note _ _)

/-- Opening a scope follows, with the handle that both return. -/
theorem openScope : Follows mayFail (Pass.Related R) m.openScope m'.openScope :=
  .bind (follows_call h.reporter.startScope) fun _ => follows_changeSession _

/-- So does closing one, with or without a scope to close. -/
theorem closeScope : Follows mayFail (Pass.Related R) m.closeScope m'.closeScope := by
  refine .bind follows_session fun s => ?_
  cases s.scopes with
  | nil => exact .pure ()
  | cons scope rest =>
    exact .bind (follows_changeSession _) fun _ => follows_call (h.reporter.writeScope scope)

/-- So does finalizing the test, whatever the reason. -/
theorem finalizeTest (reason : Finalization) :
    Follows mayFail (Pass.Related R) (m.finalizeTest reason) (m'.finalizeTest reason) := by
  refine .bind follows_session fun s => ?_
  cases s.currentTest with
  -- nothing is open to be finalized
  | none => exact .pure ()
  | some test =>
    refine .bind h.closeScope fun _ => ?_
    refine .bind (follows_call (h.reporter.writeTest test)) fun _ => ?_
    refine .bind follows_session fun s => ?_
    -- whether the test had ended is read off the session, which is the same
    refine .ite ?_ (follows_changeSession _)
    exact .bind (follows_changeSession _) fun _ =>
      .bind (h.remark _) fun _ => follows_changeSession _

/-- So does the start of a test. -/
theorem startTest (name : String) (start : Int) :
    Follows mayFail (Pass.Related R) (m.startTest name start) (m'.startTest name start) := by
  refine .bind (h.finalizeTest _) fun _ => .bind h.openScope fun _ => ?_
  refine .bind follows_session fun s => ?_
  exact .bind (follows_call (h.reporter.startTest name start _)) fun _ => follows_changeSession _

/-- So does naming it. -/
theorem nameTest (fullName : String) :
    Follows mayFail (Pass.Related R) (m.nameTest fullName) (m'.nameTest fullName) := by
  refine .bind follows_session fun s => ?_
  cases s.executables with
  | nil => exact .pure ()
  | cons test rest =>
    exact follows_call (h.reporter.updateTest test _ ⟨fun _ => rfl, fun _ => rfl, fun _ => rfl⟩)

/-- So does closing steps, by induction on their number. -/
theorem closeSteps (test : Handle) (status : Status) (stop : Int) (n : Nat) :
    Follows mayFail (Pass.Related R) (m.closeSteps test status stop n)
      (m'.closeSteps test status stop n) := by
  induction n with
  | zero => exact .pure ()
  | succ n ih =>
    refine .bind (follows_call (h.reporter.applyEntry test _)) fun _ => ?_
    exact .bind (follows_changeSession _) fun _ => .bind (h.remark _) fun _ => ih

/-- So does closing the steps left open. -/
theorem closeOpenSteps (status : Status) (stop : Int) :
    Follows mayFail (Pass.Related R) (m.closeOpenSteps status stop)
      (m'.closeOpenSteps status stop) := by
  refine .bind follows_session fun s => ?_
  cases s.currentTest with
  | none => exact .pure ()
  | some test => exact h.closeSteps test status stop _

/-- So does the end of a test. -/
theorem endTest (ending : TestEnding) (isLast : Bool) :
    Follows mayFail (Pass.Related R) (m.endTest ending isLast)
      (m'.endTest ending isLast) := by
  refine .bind follows_session fun s => ?_
  cases s.executables with
  | nil => exact .pure ()
  | cons test rest =>
    -- the ending does not touch the steps and files of a test
    have hkeeps : TestResult.KeepsContents (·.ended ending) :=
      ⟨fun _ => rfl, fun _ => rfl, fun _ => rfl⟩
    refine .bind (follows_changeSession _) fun _ => .bind (h.closeOpenSteps _ _) fun _ => ?_
    refine .bind (follows_call (h.reporter.updateTest test _ hkeeps)) fun _ => ?_
    refine .bind (follows_call (h.reporter.stopTest test _ _)) fun _ => ?_
    exact .ite (h.finalizeTest _) (.pure ())

/-- So does the start of a suite. -/
theorem startSuite : Follows mayFail (Pass.Related R) m.startSuite m'.startSuite :=
  .bind (h.finalizeTest _) fun _ => h.openScope

/-- So does its end. -/
theorem endSuite (isLast : Bool) :
    Follows mayFail (Pass.Related R) (m.endSuite isLast) (m'.endSuite isLast) := by
  exact .bind h.closeScope fun _ => .ite (h.finalizeTest _) (.pure ())

/-- So does the start of a hook, declined or not. -/
theorem startHook (name : String) (kind : HookKind) (start : Int) :
    Follows mayFail (Pass.Related R) (m.startHook name kind start)
      (m'.startHook name kind start) := by
  rw [Machine.startHook, Machine.startHook, h.isAfterAll]
  refine .ite (.bind (h.finalizeTest _) fun _ => .bind follows_session fun s => ?_)
    (.bind follows_session fun s => ?_)
  -- whether the open test is finalized before or not, the fixture starts in the same way
  all_goals
    refine .bind (follows_call (h.reporter.startFixture _ kind name start)) fun fixture => ?_
    cases fixture with
    | none => exact h.remark _
    | some fixture => exact follows_changeSession _

/-- So does its end. -/
theorem endHook (ending : HookEnding) :
    Follows mayFail (Pass.Related R) (m.endHook ending) (m'.endHook ending) := by
  refine .bind follows_session fun s => ?_
  cases s.fixtures with
  | nil => exact .pure ()
  | cons fixture rest =>
    have hchange : FixtureResult.ChangesOutcome (·.ended ending) := fun _ => ⟨_, _, rfl⟩
    refine .bind (follows_changeSession _) fun _ => ?_
    rw [call_bind, call_bind]
    exact follows_call (h.reporter.endFixture fixture _ _ _ hchange)

/-- So does an entry, with or without a test to apply it to. -/
theorem applyEntry (e : TestEntry) :
    Follows mayFail (Pass.Related R) (m.applyEntry e) (m'.applyEntry e) := by
  refine .bind follows_session fun s => ?_
  cases s.currentTest with
  | none => exact h.remark _
  | some test =>
    exact .bind (follows_changeSession _) fun _ => follows_call (h.reporter.applyEntry test e)

/-! ### Messages and logs -/

/-- A message is taken alike, whatever its kind. -/
theorem dispatch (isLast : Bool) (message : Message) :
    Follows mayFail (Pass.Related R) (m.dispatch isLast message)
      (m'.dispatch isLast message) := by
  cases message with
  | suiteStart name isFeature => exact h.startSuite
  | suiteEnd => exact h.endSuite isLast
  | testStart name start => exact h.startTest name start
  | testInfo fullName => exact h.nameTest fullName
  | testEnd e => exact h.endTest e isLast
  | hookStart name kind start => exact h.startHook name kind start
  | hookEnd e => exact h.endHook e
  | entry e => exact h.applyEntry e

/-- A log is taken alike, by induction on the log. -/
theorem dispatchAll (log : List Message) :
    Follows mayFail (Pass.Related R) (m.dispatchAll log) (m'.dispatchAll log) := by
  induction log with
  | nil => exact .pure ()
  | cons message rest ih => exact .bind (h.dispatch _ message) fun _ => ih

/-- So are the fixtures left running. -/
theorem stopFixtures (fixtures : List Handle) :
    Follows mayFail (Pass.Related R) (m.stopFixtures fixtures)
      (m'.stopFixtures fixtures) := by
  induction fixtures with
  | nil => exact .pure ()
  | cons fixture rest ih =>
    refine .bind (follows_changeSession _) fun _ => ?_
    refine .bind (follows_call (h.reporter.stopFixture fixture _ _)) fun _ => ?_
    exact .bind (h.remark _) fun _ => ih

/-- So are the scopes left open. -/
theorem closeScopes (scopes : List Handle) :
    Follows mayFail (Pass.Related R) (m.closeScopes scopes) (m'.closeScopes scopes) := by
  induction scopes with
  | nil => exact .pure ()
  | cons scope rest ih => exact .bind h.closeScope fun _ => ih

/-- So is what is left at the end of a log. -/
theorem settle : Follows mayFail (Pass.Related R) m.settle m'.settle := by
  refine .bind follows_session fun s => .bind (h.stopFixtures _) fun _ => ?_
  exact .bind (h.finalizeTest _) fun _ => .bind follows_session fun s => h.closeScopes _

/-- A whole replay follows, settled and all. -/
theorem replay : Follows mayFail (Pass.Related R) m.replay m'.replay := by
  refine .bind follows_session fun s => .bind (h.dispatchAll _) fun _ => ?_
  exact .bind h.settle fun _ => h.remark _

end CallsFollow

end Machine

/-! ### Draining -/

/-- The same registry, and states that are related. -/
structure Workspace.Related (R : σ → τ → Prop) (w : Workspace σ) (v : Workspace τ) : Prop where
  registry : w.registry = v.registry
  world : R w.world v.world

/-- The registry is changed alike. -/
private theorem Workspace.follows_changeRegistry (f : Registry → Registry) :
    Follows mayFail (Workspace.Related R) (changeRegistry f : EStateM ε (Workspace σ) Unit)
      (changeRegistry f : EStateM δ (Workspace τ) Unit) :=
  .change fun _ _ hwv => ⟨congrArg f hwv.registry, hwv.world⟩

namespace Machine.CallsFollow

open Workspace (follows_changeRegistry)

variable {m : Machine σ ε} {m' : Machine τ δ} (h : m.CallsFollow mayFail R m')

include h

/-- A session is replayed alike, and taken out of both registries. -/
theorem replaySession (s : Session) :
    Follows mayFail (Workspace.Related R) (Workspace.replaySession m s)
      (Workspace.replaySession m' s) := by
  rintro ⟨r, world⟩ ⟨r', world'⟩ ⟨rfl, hworld⟩ a v hruns
  have hcalls : CallsFollow mayFail R { m with synchronised := r.isSynchronised }
      { m' with synchronised := r.isSynchronised } := ⟨h.reporter, h.isAfterAll, rfl⟩
  have hreplay := hcalls.replay
  simp only [Runs, Workspace.replaySession] at hruns ⊢
  -- a replay that fails gives no result to follow
  cases hruns' : ({ m' with synchronised := r.isSynchronised } : Machine τ δ).replay
      ⟨s, world'⟩ with
  | error e q =>
    rw [hruns'] at hruns
    cases hruns
  | ok b q =>
    rw [hruns'] at hruns
    cases hruns
    -- what is kept of the session is the same, since the sessions are
    have hstart : Pass.Related R ⟨s, world⟩ ⟨s, world'⟩ := ⟨rfl, hworld⟩
    -- the other replay goes the same way, or it fails
    rcases hreplay hstart hruns' with ⟨p, hp, hpq⟩ | ⟨hfail, e, p, hp⟩
    · left
      simp only [Runs] at hp
      rw [hp]
      exact ⟨_, rfl, ⟨by rw [hpq.session], hpq.world⟩⟩
    · right
      rw [hp]
      exact ⟨hfail, e, _, rfl⟩

/-- Sessions are drained alike, by induction on them. -/
theorem drainSessions (sessions : List Session) :
    Follows mayFail (Workspace.Related R) (Workspace.drainSessions m sessions)
      (Workspace.drainSessions m' sessions) := by
  induction sessions with
  | nil => exact .pure ()
  | cons s rest ih =>
    refine .bind (h.replaySession s) fun _ => ?_
    refine .bind (follows_changeRegistry _) fun _ => .get fun w v hwv => ?_
    rw [hwv.registry]
    refine .bind (.onPart (fun _ _ hwv => hwv.world) (fun _ _ _ _ hwv hst => ?_) ?_) fun _ => ih
    · exact ⟨hwv.registry, hst⟩
    · exact h.reporter.note _ _

/-- A drain follows, and leaves both registries as they are after it. -/
theorem drainAll :
    Follows mayFail (Workspace.Related R) (Workspace.drainAll m) (Workspace.drainAll m') := by
  rintro ⟨r, world⟩ ⟨r', world'⟩ ⟨rfl, hworld⟩ a v hruns
  simp only [Runs, Workspace.drainAll] at hruns ⊢
  -- the mark that the registry is being drained is taken back however the drain ends
  cases hruns' : Workspace.drainSessions m' r.sessions ⟨{ r with draining := true }, world'⟩ with
  | error e w' =>
    rw [hruns'] at hruns
    cases hruns
  | ok b w' =>
    rw [hruns'] at hruns
    cases hruns
    have hstart : Workspace.Related R ⟨{ r with draining := true }, world⟩
        ⟨{ r with draining := true }, world'⟩ := ⟨rfl, hworld⟩
    -- the other drain returns as well, or fails where it may
    rcases h.drainSessions r.sessions hstart hruns' with ⟨w, hw, hww'⟩ | ⟨hfail, e, w, hw⟩
    · left
      simp only [Runs] at hw
      rw [hw]
      exact ⟨_, rfl, ⟨by rw [hww'.registry], hww'.world⟩⟩
    · right
      rw [hw]
      exact ⟨hfail, e, _, rfl⟩

end Machine.CallsFollow

end Chronicle
