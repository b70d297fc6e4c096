import Chronicle.Proofs.Curtails
import Chronicle.Proofs.Replay.Following
import Mathlib.Logic.Relation

/-!
# Replays as scripts

What a replay does is laid down by its log and by what its calls return; the reporter that it drives
has no other part in it. `Machine.Parallel` says so of two machines: they make the same calls and
change the session in the same way. The handlers are gone through once, and what holds of every
script holds of a replay: how it can fail (`Machine.Parallel.traced`), and how it compares to the
replay into another reporter (`Machine.Parallel.curtails`).
-/
namespace Chronicle

variable {σ τ ε δ α β : Type}

/-! ### Calls -/

/-- A call of a reporter. -/
inductive Call : Type → Type where
  | startScope : Call Handle
  | writeScope (h : Handle) : Call Unit
  | startTest (name : String) (start : Int) (scopes : List Handle) : Call Handle
  | updateTest (h : Handle) (f : TestResult → TestResult) : Call Unit
  | stopTest (h : Handle) (stop duration : Option Int) : Call Unit
  | writeTest (h : Handle) : Call Unit
  | startFixture (scope : Option Handle) (kind : HookKind) (name : String) (start : Int) :
    Call (Option Handle)
  | updateFixture (h : Handle) (f : FixtureResult → FixtureResult) : Call Unit
  | stopFixture (h : Handle) (stop duration : Option Int) : Call Unit
  | applyMessages (h : Handle) (entries : List TestEntry) : Call Unit

namespace Call

/-- What is called. -/
def operation : Call α → Operation
  | .startScope => .startScope
  | .writeScope _ => .writeScope
  | .startTest .. => .startTest
  | .updateTest .. => .updateTest
  | .stopTest .. => .stopTest
  | .writeTest _ => .writeTest
  | .startFixture .. => .startFixture
  | .updateFixture .. => .updateFixture
  | .stopFixture .. => .stopFixture
  | .applyMessages .. => .applyMessages

/-- The call of a reporter. -/
def run (r : Reporter σ ε) : Call α → EStateM ε σ α
  | .startScope => r.startScope
  | .writeScope h => r.writeScope h
  | .startTest name start scopes => r.startTest name start scopes
  | .updateTest h f => r.updateTest h f
  | .stopTest h stop duration => r.stopTest h stop duration
  | .writeTest h => r.writeTest h
  | .startFixture scope kind name start => r.startFixture scope kind name start
  | .updateFixture h f => r.updateFixture h f
  | .stopFixture h stop duration => r.stopFixture h stop duration
  | .applyMessages h entries => r.applyMessages h entries

/-- A call of a reporter that works on a part of a state. -/
theorem run_extend (r : Reporter σ ε) (get : τ → σ) (set : σ → τ → τ) (wrap : ε → δ)
    (before : Operation → EStateM δ τ Unit) (note : Bool → Note → EStateM δ τ Unit) (c : Call α) :
    c.run (r.extend get set wrap before note)
      = (do before c.operation; Reporter.onPart get set wrap (c.run r)) := by
  cases c <;> rfl

end Call

/-- The session of the same context with the same log. -/
structure Session.SameLog (s t : Session) : Prop where
  contextId : t.contextId = s.contextId
  log : t.log = s.log

/-- The log stays the same from one session to the next. -/
theorem Session.SameLog.trans {s t u : Session} (h : s.SameLog t) (h' : t.SameLog u) :
    s.SameLog u :=
  ⟨h'.contextId.trans h.contextId, h'.log.trans h.log⟩

namespace Machine

variable {m : Machine σ ε} {m' : Machine τ δ}

/-! ### Scripts -/

/-- Two replays that are made of the same changes of the session and the same calls, each of them
into its own reporter. -/
inductive Parallel (m : Machine σ ε) (m' : Machine τ δ) :
    {α : Type} → Replay σ ε α → Replay τ δ α → Prop
  | pure {α : Type} (a : α) : Parallel m m' (Pure.pure a) (Pure.pure a)
  | bind {α β : Type} {act : Replay σ ε α} {act' : Replay τ δ α} {next : α → Replay σ ε β}
    {next' : α → Replay τ δ β} (h : Parallel m m' act act')
    (hnext : ∀ a, Parallel m m' (next a) (next' a)) :
    Parallel m m' (act >>= next) (act' >>= next')
  | session : Parallel m m' Machine.session Machine.session
  | change (f : Session → Session) (hf : ∀ s : Session, s.SameLog (f s)) :
    Parallel m m' (changeSession f) (changeSession f)
  | call {α : Type} (c : Call α) :
    Parallel m m' (Machine.call (c.run m.reporter)) (Machine.call (c.run m'.reporter))
  | remark (r : Remark) : Parallel m m' (m.remark r) (m'.remark r)

namespace Parallel

/-- A choice that both make alike is parallel if both ways are. -/
theorem ite {c : Prop} [Decidable c] {act₁ act₂ : Replay σ ε α} {act₁' act₂' : Replay τ δ α}
    (h₁ : Parallel m m' act₁ act₁') (h₂ : Parallel m m' act₂ act₂') :
    Parallel m m' (if c then act₁ else act₂) (if c then act₁' else act₂') := by
  by_cases hc : c
  · rwa [if_pos hc, if_pos hc]
  · rwa [if_neg hc, if_neg hc]

/-- Both open a scope in the same way. -/
theorem openScope : Parallel m m' m.openScope m'.openScope :=
  .bind (.call .startScope) fun _ => .change _ fun _ => ⟨rfl, rfl⟩

/-- Both close the innermost scope in the same way, if there is one. -/
theorem closeScope : Parallel m m' m.closeScope m'.closeScope := by
  refine .bind .session fun s => ?_
  cases s.scopes with
  | nil => exact .pure ()
  | cons scope rest =>
    exact .bind (.change _ fun _ => ⟨rfl, rfl⟩) fun _ => .call (.writeScope scope)

/-- Both finalize a test in the same way. -/
theorem finalizeTest (reason : Finalization) :
    Parallel m m' (m.finalizeTest reason) (m'.finalizeTest reason) := by
  refine .bind .session fun s => ?_
  cases s.currentTest with
  | none => exact .pure ()
  | some test =>
    refine .bind closeScope fun _ => .bind (.call (.writeTest test)) fun _ => ?_
    refine .bind .session fun s => .ite ?_ (.change _ fun _ => ⟨rfl, rfl⟩)
    exact .bind (.change _ fun _ => ⟨rfl, rfl⟩) fun _ =>
      .bind (.remark _) fun _ => .change _ fun _ => ⟨rfl, rfl⟩

/-- Both start a test in the same way. -/
theorem startTest (name : String) (start : Int) :
    Parallel m m' (m.startTest name start) (m'.startTest name start) := by
  refine .bind (finalizeTest _) fun _ => .bind openScope fun _ => .bind .session fun s => ?_
  exact .bind (.call (.startTest name start s.scopes.reverse)) fun _ =>
    .change _ fun _ => ⟨rfl, rfl⟩

/-- Both name a test in the same way. -/
theorem nameTest (fullName : String) :
    Parallel m m' (m.nameTest fullName) (m'.nameTest fullName) := by
  refine .bind .session fun s => ?_
  cases s.executables with
  | nil => exact .pure ()
  | cons test rest => exact .call (.updateTest test fun r => { r with fullName := some fullName })

/-- Both close steps in the same way, by induction on their number. -/
theorem closeSteps (test : Handle) (status : Status) (stop : Int) (n : Nat) :
    Parallel m m' (m.closeSteps test status stop n) (m'.closeSteps test status stop n) := by
  induction n with
  | zero => exact .pure ()
  | succ n ih =>
    refine .bind (.call (.applyMessages test [.stepStop status stop none])) fun _ => ?_
    exact .bind (.change _ fun _ => ⟨rfl, rfl⟩) fun _ => .bind (.remark _) fun _ => ih

/-- Both close the steps left open in the same way. -/
theorem closeOpenSteps (status : Status) (stop : Int) :
    Parallel m m' (m.closeOpenSteps status stop) (m'.closeOpenSteps status stop) := by
  refine .bind .session fun s => ?_
  cases s.currentTest with
  | none => exact .pure ()
  | some test => exact closeSteps test status stop _

/-- Both end a test in the same way. -/
theorem endTest (ending : TestEnding) (isLast : Bool) :
    Parallel m m' (m.endTest ending isLast) (m'.endTest ending isLast) := by
  refine .bind .session fun s => ?_
  cases s.executables with
  | nil => exact .pure ()
  | cons test rest =>
    refine .bind (.change _ fun _ => ⟨rfl, rfl⟩) fun _ => .bind (closeOpenSteps _ _) fun _ => ?_
    refine .bind (.call (.updateTest test (·.ended ending))) fun _ => ?_
    refine .bind (.call (.stopTest test (some ending.stop) ending.duration)) fun _ => ?_
    exact .ite (finalizeTest _) (.pure ())

/-- Both start a suite in the same way. -/
theorem startSuite : Parallel m m' m.startSuite m'.startSuite :=
  .bind (finalizeTest _) fun _ => openScope

/-- Both end a suite in the same way. -/
theorem endSuite (isLast : Bool) : Parallel m m' (m.endSuite isLast) (m'.endSuite isLast) := by
  exact .bind closeScope fun _ => .ite (finalizeTest _) (.pure ())

/-- Both start a hook in the same way, if they agree on which names mean after all. -/
theorem startHook (h : m.isAfterAll = m'.isAfterAll) (name : String) (kind : HookKind)
    (start : Int) : Parallel m m' (m.startHook name kind start) (m'.startHook name kind start) := by
  rw [Machine.startHook, Machine.startHook, h]
  refine .ite (.bind (finalizeTest _) fun _ => .bind .session fun s => ?_)
    (.bind .session fun s => ?_)
  -- whether the open test is finalized before or not, the fixture starts in the same way
  all_goals
    refine .bind (.call (.startFixture s.scopes.head? kind name start)) fun fixture => ?_
    cases fixture with
    | none => exact .remark _
    | some fixture => exact .change _ fun _ => ⟨rfl, rfl⟩

/-- Both end a hook in the same way. -/
theorem endHook (ending : HookEnding) : Parallel m m' (m.endHook ending) (m'.endHook ending) := by
  refine .bind .session fun s => ?_
  cases s.fixtures with
  | nil => exact .pure ()
  | cons fixture rest =>
    refine .bind (.change _ fun _ => ⟨rfl, rfl⟩) fun _ => ?_
    exact .bind (.call (.updateFixture fixture (·.ended ending))) fun _ =>
      .call (.stopFixture fixture (some ending.stop) ending.duration)

/-- Both apply an entry in the same way. -/
theorem applyEntry (e : TestEntry) : Parallel m m' (m.applyEntry e) (m'.applyEntry e) := by
  refine .bind .session fun s => ?_
  cases s.currentTest with
  | none => exact .remark _
  | some test =>
    exact .bind (.change _ fun _ => ⟨rfl, rfl⟩) fun _ => .call (.applyMessages test [e])

/-- Both take a message in the same way. -/
theorem dispatch (h : m.isAfterAll = m'.isAfterAll) (isLast : Bool) (message : Message) :
    Parallel m m' (m.dispatch isLast message) (m'.dispatch isLast message) := by
  cases message with
  | suiteStart name isFeature => exact startSuite
  | suiteEnd => exact endSuite isLast
  | testStart name start => exact startTest name start
  | testInfo fullName => exact nameTest fullName
  | testEnd e => exact endTest e isLast
  | hookStart name kind start => exact startHook h name kind start
  | hookEnd e => exact endHook e
  | entry e => exact applyEntry e

/-- Both take a log in the same way, by induction on the log. -/
theorem dispatchAll (h : m.isAfterAll = m'.isAfterAll) (log : List Message) :
    Parallel m m' (m.dispatchAll log) (m'.dispatchAll log) := by
  induction log with
  | nil => exact .pure ()
  | cons message rest ih => exact .bind (dispatch h _ message) fun _ => ih

/-- Both stop the fixtures left running in the same way. -/
theorem stopFixtures (fixtures : List Handle) :
    Parallel m m' (m.stopFixtures fixtures) (m'.stopFixtures fixtures) := by
  induction fixtures with
  | nil => exact .pure ()
  | cons fixture rest ih =>
    refine .bind (.change _ fun _ => ⟨rfl, rfl⟩) fun _ => ?_
    exact .bind (.call (.stopFixture fixture none none)) fun _ => .bind (.remark _) fun _ => ih

/-- Both close the scopes left open in the same way. -/
theorem closeScopes (scopes : List Handle) :
    Parallel m m' (m.closeScopes scopes) (m'.closeScopes scopes) := by
  induction scopes with
  | nil => exact .pure ()
  | cons scope rest ih => exact .bind closeScope fun _ => ih

/-- Both settle in the same way. -/
theorem settle : Parallel m m' m.settle m'.settle := by
  refine .bind .session fun s => .bind (stopFixtures _) fun _ => ?_
  exact .bind (finalizeTest _) fun _ => .bind .session fun s => closeScopes _

/-- Machines that tell the same hooks apart follow one script. -/
theorem replay (h : m.isAfterAll = m'.isAfterAll) : Parallel m m' m.replay m'.replay := by
  refine .bind .session fun s => .bind (dispatchAll h _) fun _ => ?_
  exact .bind settle fun _ => .remark _

end Parallel

end Machine

/-! ### How a replay ends -/

/-- Calls that succeed take a reporter on by `P`, and notes never fail. -/
structure Reporter.Advances (r : Reporter σ ε) (P : σ → σ → Prop) : Prop where
  refl : ∀ w, P w w
  trans : ∀ {u v w}, P u v → P v w → P u w
  call : ∀ {γ : Type} (c : Call γ) {w a w'}, Runs (c.run r) w a w' → P w w'
  note : ∀ flag n w, ∃ w', Runs (r.note flag n) w () w' ∧ P w w'

/-- A call of a reporter that succeeds, or a note that it takes. -/
inductive Reporter.Goes (r : Reporter σ ε) : σ → σ → Prop
  | call {γ : Type} (c : Call γ) {w w' : σ} {a : γ} (h : Runs (c.run r) w a w') : Goes r w w'
  | note (flag : Bool) (n : Note) {w w' : σ} (h : Runs (r.note flag n) w () w') : Goes r w w'

/-- Any number of calls that succeed. -/
abbrev Reporter.Reaches (r : Reporter σ ε) : σ → σ → Prop :=
  Relation.ReflTransGen r.Goes

/-- Whatever is called leads to a state that can be reached, as long as notes never fail. -/
theorem Reporter.advances_reaches {r : Reporter σ ε}
    (hnote : ∀ flag n w, ∃ w', Runs (r.note flag n) w () w') : r.Advances r.Reaches where
  refl _ := .refl
  trans := .trans
  call c _ _ _ h := .single (.call c h)
  note flag n w := by
    obtain ⟨w', h⟩ := hnote flag n w
    exact ⟨w', h, .single (.note flag n h)⟩

/-- A call of a reporter has failed after others that have taken it on by `P`. -/
def Reporter.FailsAfter (r : Reporter σ ε) (P : σ → σ → Prop) (w : σ) (e : ε) (w' : σ) : Prop :=
  ∃ u, P w u ∧ ∃ (γ : Type) (c : Call γ), c.run r u = .error e w'

namespace Machine

/-- How a replay that began with `p` has ended: it has taken the reporter on by `P`, or it has done
so up to a call that failed. In any case the session has kept its log. -/
def Traced (m : Machine σ ε) (P : σ → σ → Prop) (p : Pass σ) :
    EStateM.Result ε (Pass σ) α → Prop
  | .ok _ q => p.session.SameLog q.session ∧ P p.world q.world
  | .error e q => p.session.SameLog q.session ∧ m.reporter.FailsAfter P p.world e q.world

variable {m : Machine σ ε} {m' : Machine τ δ} {P : σ → σ → Prop}

/-- A call from within a replay can be traced. -/
private theorem traced_call (hr : m.reporter.Advances P) (c : Call α) (p : Pass σ) :
    m.Traced P p (Machine.call (c.run m.reporter) p) := by
  simp only [Machine.call, Reporter.onPart]
  cases hact : c.run m.reporter p.world with
  | ok a w => exact ⟨⟨rfl, rfl⟩, hr.call c hact⟩
  | error e w => exact ⟨⟨rfl, rfl⟩, p.world, hr.refl _, α, c, hact⟩

/-- So can a remark. -/
private theorem traced_remark (hr : m.reporter.Advances P) (r : Remark) (p : Pass σ) :
    m.Traced P p (m.remark r p) := by
  obtain ⟨w, hnote, hP⟩ := hr.note m.synchronised ⟨p.session.contextId, r⟩ p.world
  have hremark : m.remark r p = .ok () { p with world := w } := by
    have hsession : Runs (Machine.session : Replay σ ε Session) p p.session p := rfl
    rw [remark, hsession.bind_eq, Machine.call, Reporter.onPart]
    simp only [show m.reporter.note m.synchronised ⟨p.session.contextId, r⟩ p.world = .ok () w
      from hnote]
  rw [hremark]
  exact ⟨⟨rfl, rfl⟩, hP⟩

/-- A script fails only where one of its calls does, and with the error of that call. -/
theorem Parallel.traced (hr : m.reporter.Advances P) {act : Replay σ ε α} {act' : Replay τ δ α}
    (h : Parallel m m' act act') (p : Pass σ) : m.Traced P p (act p) := by
  induction h generalizing p with
  | pure a => exact ⟨⟨rfl, rfl⟩, hr.refl _⟩
  | session => exact ⟨⟨rfl, rfl⟩, hr.refl _⟩
  | change f hf => exact ⟨hf p.session, hr.refl _⟩
  | call c => exact traced_call hr c p
  | remark r => exact traced_remark hr r p
  | @bind _ _ act _ next _ _ _ ih ihnext =>
    have hfirst := ih p
    simp only [Bind.bind, EStateM.bind]
    cases hact : act p with
    -- the first part fails, and with it the whole
    | error e q =>
      rw [hact] at hfirst
      exact hfirst
    | ok a q =>
      rw [hact] at hfirst
      obtain ⟨hlog, hP⟩ := hfirst
      -- what the second part is known to do, it does after the first
      have hsecond := ihnext a q
      simp only
      cases hnext : next a q with
      | ok b q' =>
        rw [hnext] at hsecond
        exact ⟨hlog.trans hsecond.1, hr.trans hP hsecond.2⟩
      -- the second part fails after what the first has done
      | error e q' =>
        rw [hnext] at hsecond
        obtain ⟨hlog', u, hu, hfails⟩ := hsecond
        exact ⟨hlog.trans hlog', u, hr.trans hP hu, hfails⟩

/-! ### How a replay compares to another -/

/-- If each call curtails the same call of another reporter, then a script does so, too. -/
theorem Parallel.curtails {R V : σ → τ → Prop}
    (hcall : ∀ {γ : Type} (c : Call γ), Curtails R V (c.run m.reporter) (c.run m'.reporter))
    (hnote : ∀ flag flag' n, Curtails R V (m.reporter.note flag n) (m'.reporter.note flag' n))
    {act : Replay σ ε α} {act' : Replay τ δ α} (h : Parallel m m' act act') :
    Curtails (Pass.Related R) (fun p q => V p.world q.world) act act' := by
  -- what holds of a call holds of it within a replay, whose session it does not touch
  have honPart : ∀ {γ : Type} {act : EStateM ε σ γ} {act' : EStateM δ τ γ}, Curtails R V act act' →
      Curtails (Pass.Related R) (fun p q => V p.world q.world) (Machine.call act)
        (Machine.call act') := fun hact =>
    .onPart (fun _ _ hpq => hpq.world) (fun _ _ _ _ hpq hst => ⟨hpq.session, hst⟩)
      (fun _ _ => .rfl) (fun _ _ => rfl) (fun _ _ => rfl) hact
  have hsession : Curtails (Pass.Related R) (fun p q => V p.world q.world)
      (Machine.session : Replay σ ε Session) (Machine.session : Replay τ δ Session) := by
    refine ⟨?_, ?_⟩
    · intro q s q' hruns p hpq
      cases hruns
      exact hpq
    · intro p q hpq s q' hruns
      cases hruns
      exact .inl ⟨p, by rw [← hpq.session]; rfl, hpq⟩
  -- one case for each way to put a script together
  induction h with
  | pure a => exact .pure a
  | session => exact hsession
  | change f hf =>
    exact .change (fun _ _ hpq => ⟨congrArg f hpq.session, hpq.world⟩) fun _ _ hpq => hpq
  | call c => exact honPart (hcall c)
  | remark r => exact .bind hsession fun s => honPart (hnote _ _ _)
  | bind _ _ ih ihnext => exact .bind ih ihnext

end Machine

end Chronicle
