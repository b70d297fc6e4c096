import Chronicle.Proofs.Replay.Script
import Chronicle.Proofs.Report.Step

/-!
# Reports whose calls fail

A call can fail because it was made to, and then it has done nothing; or because a file cannot be
saved, and then it may have been noted. Either way the calls that have been noted are those that a
report notes whose calls succeed, up to some point: `Desk.curtails_failing`.
-/
namespace Chronicle

namespace Backend

/-! ### Reports in different places -/

/-- The reports say the same, wherever they go. -/
def Alike (b v : Backend) : Prop :=
  b.forget = v.forget

/-- The calls of the first report are the first ones of the second. -/
def CallsWithin (b v : Backend) : Prop :=
  b.calls <+: v.calls

variable {b v : Backend}

/-- Reports that are alike differ in their files at most. -/
theorem Alike.exists_eq (h : b.Alike v) :
    ∃ destination disk saved,
      b = { v with destination := destination, disk := disk, saved := saved } := by
  refine ⟨b.destination, b.disk, b.saved, ?_⟩
  cases b
  cases v
  simp only [Alike, forget, mk.injEq, and_true] at h ⊢
  exact h

/-- Of reports that are alike, either has noted no more calls than the other. -/
private theorem Alike.callsWithin (h : b.Alike v) : b.CallsWithin v := by
  obtain ⟨destination, disk, saved, rfl⟩ := h.exists_eq
  exact List.prefix_rfl

/-! ### Parts of operations -/

/-- A change that looks at no file curtails itself, if it takes no call back. -/
private theorem curtails_change {f : Backend → Backend}
    (hf : ∀ (v : Backend) destination disk saved,
      (f { v with destination := destination, disk := disk, saved := saved }).Alike (f v))
    (hcalls : ∀ v, v.calls <+: (f v).calls) :
    Curtails Alike CallsWithin (modify f : Reporting PUnit) (modify f : Reporting PUnit) := by
  refine .change (fun b v h => ?_) fun b v h => h.trans (hcalls v)
  obtain ⟨destination, disk, saved, rfl⟩ := h.exists_eq
  exact hf v destination disk saved

/-- To note a call looks at no file. -/
private theorem curtails_called (op : Operation) (h : Handle) :
    Curtails Alike CallsWithin (called op h) (called op h) :=
  curtails_change (fun _ _ _ _ => rfl) fun _ => List.prefix_append ..

/-- What is done next depends on what a report says, and not on where it goes. -/
private theorem curtails_get {α : Type} {next : Backend → Reporting α}
    (h : ∀ (v : Backend) destination disk saved, Curtails Alike CallsWithin
      (next { v with destination := destination, disk := disk, saved := saved }) (next v)) :
    Curtails Alike CallsWithin (get >>= next) (get >>= next) := by
  refine .get (fun v => ⟨v, rfl⟩) fun b v hbv => ?_
  obtain ⟨destination, disk, saved, rfl⟩ := hbv.exists_eq
  exact h v destination disk saved

/-- A handle is drawn from the count alone. -/
private theorem curtails_draw : Curtails Alike CallsWithin draw draw where
  grows := by
    intro v a v' hruns b hbv
    cases hruns
    exact hbv
  outcome := by
    intro b v hbv a v' hruns
    obtain ⟨destination, disk, saved, rfl⟩ := hbv.exists_eq
    cases hruns
    exact .inl ⟨_, rfl, rfl⟩

/-- Whether a scope is open is told without looking at a file. -/
private theorem curtails_openScope (h : Handle) :
    Curtails Alike CallsWithin (openScope h) (openScope h) := by
  refine curtails_get fun v _ _ _ => ?_
  cases hget : v.scopes.get? h with
  | none => exact .throw _ _
  | some s => exact .pure s

/-- So is whether a test is. -/
private theorem curtails_openTest (h : Handle) :
    Curtails Alike CallsWithin (openTest h) (openTest h) := by
  refine curtails_get fun v _ _ _ => ?_
  cases hget : v.tests.get? h with
  | none => exact .throw _ _
  | some t => exact .pure t

/-- So is whether a fixture is running. -/
private theorem curtails_requireRunning (h : Handle) :
    Curtails Alike CallsWithin (requireRunning h) (requireRunning h) := by
  refine curtails_get fun v _ _ _ => ?_
  cases v.running.contains h with
  | false => exact .throw _ _
  | true => exact .pure ()

/-- To save a file either leaves the rest of the report as it was, or fails. -/
private theorem save_or_error (name : String) (content : Bytes) (b : Backend) :
    (∃ b', Runs (save name content) b () b' ∧ b'.Alike b)
      ∨ ∃ e, save name content b = .error e b := by
  cases hd : b.destination with
  -- in memory nothing is saved, and so nothing fails
  | memory => exact .inl ⟨b, runs_save hd name content, rfl⟩
  | directory root =>
    cases hwrite : b.disk.write (root.child name).steps content with
    | ok disk => exact .inl ⟨_, (Saves.directory hd hwrite).runs, rfl⟩
    | error o =>
      refine .inr ⟨.notWritten (root.child name), ?_⟩
      rw [save, (Runs.get b).bind_eq]
      simp only [hd, hwrite]
      rfl

/-- Saving is the one step that can fail on one report and not on another alike. -/
private theorem curtails_save (name : String) (content : Bytes) :
    Curtails Alike CallsWithin (save name content) (save name content) := by
  -- saving notes no call, so the calls do not tell whether it has succeeded
  have halike : ∀ {v a v'}, Runs (save name content) v a v' → v'.Alike v := by
    intro v a v' hruns
    rcases save_or_error name content v with ⟨v'', hsaved, h⟩ | ⟨e, herror⟩
    · obtain ⟨-, rfl⟩ := hruns.unique hsaved
      exact h
    · rw [Runs, herror] at hruns
      cases hruns
  refine ⟨fun v a v' hruns b hbv => ?_, fun b v hbv a v' hruns => ?_⟩
  · obtain ⟨destination, disk, saved, rfl⟩ := (halike hruns).exists_eq
    exact hbv
  -- where the one saves, the other saves too or fails without a call
  · rcases save_or_error name content b with ⟨b', hsaved, h⟩ | ⟨e, herror⟩
    · exact .inl ⟨b', hsaved, (h.trans hbv).trans (halike hruns).symm⟩
    · have hwithin : b.Alike v' := Eq.trans hbv (halike hruns).symm
      exact .inr ⟨e, b, herror, hwithin.callsWithin⟩

/-! ### Operations -/

/-- A scope that starts looks at no file. -/
private theorem curtails_startScope : Curtails Alike CallsWithin startScope startScope := by
  refine .bind curtails_draw fun h => .bind ?_ fun _ => .bind (curtails_called _ h) fun _ => .pure h
  exact curtails_change (fun _ _ _ _ => rfl) fun _ => List.prefix_rfl

/-- A scope is taken out and noted before its file is saved, so a failure comes after the note. -/
private theorem curtails_writeScope (h : Handle) :
    Curtails Alike CallsWithin (writeScope h) (writeScope h) := by
  refine .bind (curtails_openScope h) fun s => .bind ?_ fun _ => ?_
  · exact curtails_change (fun _ _ _ _ => rfl) fun _ => List.prefix_rfl
  refine .bind (curtails_called _ h) fun _ => curtails_get fun v _ _ _ => ?_
  exact .bind (curtails_save _ _) fun _ =>
    curtails_change (fun _ _ _ _ => rfl) fun _ => List.prefix_rfl

/-- A test that starts looks at no file. -/
private theorem curtails_startTest (name : String) (start : Int) (scopes : List Handle) :
    Curtails Alike CallsWithin (startTest name start scopes) (startTest name start scopes) := by
  refine .bind curtails_draw fun h => .bind ?_ fun _ => .bind (curtails_called _ h) fun _ => .pure h
  exact curtails_change (fun _ _ _ _ => rfl) fun _ => List.prefix_rfl

/-- A change of a test looks at no file. -/
private theorem curtails_changeTest (h : Handle) (f : OpenTest → OpenTest) :
    Curtails Alike CallsWithin (changeTest h f) (changeTest h f) :=
  curtails_change (fun _ _ _ _ => rfl) fun _ => List.prefix_rfl

/-- An update of a test is a change of it. -/
private theorem curtails_updateTest (h : Handle) (f : TestResult → TestResult) :
    Curtails Alike CallsWithin (updateTest h f) (updateTest h f) :=
  .bind (curtails_openTest h) fun _ =>
    .bind (curtails_changeTest h _) fun _ => curtails_called _ h

/-- The stop of a test is a change of it. -/
private theorem curtails_stopTest (h : Handle) (stop duration : Option Int) :
    Curtails Alike CallsWithin (stopTest h stop duration) (stopTest h stop duration) :=
  .bind (curtails_openTest h) fun _ =>
    .bind (curtails_changeTest h _) fun _ => curtails_called _ h

/-- A test is taken out and noted before its file is saved, as a scope is. -/
private theorem curtails_writeTest (h : Handle) :
    Curtails Alike CallsWithin (writeTest h) (writeTest h) := by
  refine .bind (curtails_openTest h) fun t => .bind ?_ fun _ => ?_
  · exact curtails_change (fun _ _ _ _ => rfl) fun _ => List.prefix_rfl
  refine .bind (curtails_called _ h) fun _ => .bind (curtails_save _ _) fun _ => ?_
  exact curtails_change (fun _ _ _ _ => rfl) fun _ => List.prefix_rfl

/-- A fixture that starts looks at no file, whether or not its scope is open. -/
private theorem curtails_startFixture (scope : Option Handle) (kind : HookKind) (name : String)
    (start : Int) : Curtails Alike CallsWithin (startFixture scope kind name start)
      (startFixture scope kind name start) := by
  refine curtails_get fun v _ _ _ => ?_
  cases hscope : scope.filter v.scopes.has with
  | none => exact .pure none
  | some s =>
    refine .bind curtails_draw fun h => .bind ?_ fun _ => ?_
    · exact curtails_change (fun _ _ _ _ => rfl) fun _ => List.prefix_rfl
    · exact .bind (curtails_called _ h) fun _ => .pure (some h)

/-- A change of a fixture looks at no file. -/
private theorem curtails_changeFixture (h : Handle) (f : FixtureResult → FixtureResult) :
    Curtails Alike CallsWithin (changeFixture h f) (changeFixture h f) :=
  curtails_change (fun _ _ _ _ => rfl) fun _ => List.prefix_rfl

/-- An update of a fixture is a change of it. -/
private theorem curtails_updateFixture (h : Handle) (f : FixtureResult → FixtureResult) :
    Curtails Alike CallsWithin (updateFixture h f) (updateFixture h f) :=
  .bind (curtails_requireRunning h) fun _ =>
    .bind (curtails_changeFixture h f) fun _ => curtails_called _ h

/-- A fixture that stops is changed and no longer running; no file is looked at. -/
private theorem curtails_stopFixture (h : Handle) (stop duration : Option Int) :
    Curtails Alike CallsWithin (stopFixture h stop duration) (stopFixture h stop duration) := by
  refine .bind (curtails_requireRunning h) fun _ => .bind ?_ fun _ => ?_
  · exact curtails_change (fun _ _ _ _ => rfl) fun _ => List.prefix_rfl
  · exact .bind (curtails_changeFixture h _) fun _ => curtails_called _ h

/-- An entry can save a file, the octets of an attachment, and does so before it changes the
test. -/
private theorem curtails_applyEntry (h : Handle) (e : TestEntry) :
    Curtails Alike CallsWithin (applyEntry h e) (applyEntry h e) := by
  cases e with
  | stepStart name start => exact curtails_changeTest h _
  | stepStop status stop details => exact curtails_changeTest h _
  | metadata labels parameters => exact curtails_changeTest h _
  | attachment file =>
    refine .bind curtails_draw fun source => .bind (curtails_changeTest h _) fun _ => ?_
    refine .bind ?_ fun _ => curtails_save _ _
    exact curtails_change (fun _ _ _ _ => rfl) fun _ => List.prefix_rfl

/-- Entries are applied one after another, so this goes by induction on them. -/
private theorem curtails_applyMessages (h : Handle) (entries : List TestEntry) :
    Curtails Alike CallsWithin (applyMessages h entries) (applyMessages h entries) := by
  refine .bind (curtails_openTest h) fun _ => .bind ?_ fun _ => curtails_called _ h
  induction entries with
  | nil => exact .pure _
  | cons e rest ih => exact .bind (curtails_applyEntry h e) fun _ => ih

/-- Each call does the same for a report wherever it goes, as long as files can be saved. -/
theorem curtails_call {α : Type} (c : Call α) :
    Curtails Alike CallsWithin (c.run reporter) (c.run reporter) := by
  cases c with
  | startScope => exact curtails_startScope
  | writeScope h => exact curtails_writeScope h
  | startTest name start scopes => exact curtails_startTest name start scopes
  | updateTest h f => exact curtails_updateTest h f
  | stopTest h stop duration => exact curtails_stopTest h stop duration
  | writeTest h => exact curtails_writeTest h
  | startFixture scope kind name start => exact curtails_startFixture scope kind name start
  | updateFixture h f => exact curtails_updateFixture h f
  | stopFixture h stop duration => exact curtails_stopFixture h stop duration
  | applyMessages h entries => exact curtails_applyMessages h entries

end Backend

/-! ### Desks -/

namespace Desk

/-- A reporter of a desk, which takes notes or does not. -/
def IsReporter (r : Reporter Desk ReportError) : Prop :=
  r = reporter ∨ r = silent

variable {r : Reporter Desk ReportError}

/-- A call at a desk is the call of its report. -/
theorem IsReporter.run_eq (hr : IsReporter r) {α : Type} (c : Call α) :
    c.run r = Reporter.onPart Desk.report withReport id (c.run Backend.reporter) := by
  rcases hr with rfl | rfl <;> exact c.run_extend ..

/-- A note is taken whatever the report, and leaves it as it was. -/
private theorem IsReporter.exists_note (hr : IsReporter r) (flag : Bool) (n : Note) (d : Desk) :
    ∃ d', Runs (r.note flag n) d () d' ∧ d'.report = d.report := by
  rcases hr with rfl | rfl
  · exact ⟨_, .change _ d, rfl⟩
  · exact ⟨d, .pure () d, rfl⟩

/-- The reports at the two desks say the same. -/
def Alike (d d' : Desk) : Prop :=
  d.report.Alike d'.report

/-- The calls at the first desk are the first ones at the second. -/
def CallsWithin (d d' : Desk) : Prop :=
  d.report.CallsWithin d'.report

/-- Every call on the desk curtails itself, as the operations of the report do. -/
theorem curtails_call (hr : IsReporter r) {α : Type} (c : Call α) :
    Curtails Alike CallsWithin (c.run r) (c.run r) := by
  rw [hr.run_eq]
  exact .onPart (fun _ _ h => h) (fun _ _ _ _ _ h => h) (fun _ _ => .rfl) (fun _ _ => rfl)
    (fun _ _ => rfl) (Backend.curtails_call c)

/-- Notes do not concern the report, so even a different flag makes no difference to it. -/
private theorem curtails_note (hr : IsReporter r) (flag flag' : Bool) (n : Note) :
    Curtails Alike CallsWithin (r.note flag n) (r.note flag' n) where
  grows := by
    intro d a d' hruns d₀ hwithin
    obtain ⟨d'', hnote, heq⟩ := hr.exists_note flag' n d
    obtain ⟨-, rfl⟩ := hruns.unique hnote
    rwa [CallsWithin, heq]
  outcome := by
    intro d d' halike a d₁' hruns
    -- both sides take the note, and neither report changes
    obtain ⟨d₁, hnote, heq⟩ := hr.exists_note flag n d
    obtain ⟨d₂, hnote', heq'⟩ := hr.exists_note flag' n d'
    obtain ⟨-, rfl⟩ := hruns.unique hnote'
    refine .inl ⟨d₁, hnote, ?_⟩
    rwa [Alike, heq, heq']

end Desk

/-! ### Calls by a plan -/

namespace Counted

variable {σ : Type}

/-- The state after one more call. -/
def tick (op : Operation) (u : Counted σ) : Counted σ :=
  { u with count := fun o => if o = op then u.count op + 1 else u.count o }

/-- An attempt counts itself, and only then asks the plan whether to fail. -/
private theorem attempt_eq {ε : Type} (plan : Operation → Nat → Bool) (op : Operation)
    (u : Counted σ) :
    (attempt plan op : EStateM (Interruption ε) (Counted σ) Unit) u
      = (if plan op (u.count op + 1) then throw (.injected op) else pure () :
          EStateM (Interruption ε) (Counted σ) Unit) (u.tick op) :=
  rfl

/-- None of the calls that were made between two states was made to fail. -/
def Spares (plan : Operation → Nat → Bool) (u w : Counted σ) : Prop :=
  ∀ op n, u.count op < n → n ≤ w.count op → plan op n = false

end Counted

namespace Reporter

variable {σ ε α : Type}

/-- How a call fails that may be made to: it was, and has done nothing, or it was not, and the
reporter itself has failed. -/
inductive FailsUnder (r : Reporter σ ε) (plan : Operation → Nat → Bool) (u : Counted σ) :
    Interruption ε → Counted σ → Prop
  | injected {α : Type} (c : Call α) (h : plan c.operation (u.count c.operation + 1) = true) :
    FailsUnder r plan u (.injected c.operation) (u.tick c.operation)
  | failure {α : Type} (c : Call α) (h : plan c.operation (u.count c.operation + 1) = false)
    {e : ε} {s : σ} (hc : c.run r u.state = .error e s) :
    FailsUnder r plan u (.failure e) { u.tick c.operation with state := s }

variable {r : Reporter σ ε} {plan : Operation → Nat → Bool} {u w : Counted σ}

/-- A call that is made to fail does nothing but count. -/
theorem run_failing_of_injected (c : Call α)
    (h : plan c.operation (u.count c.operation + 1) = true) :
    c.run (r.failing plan) u = .error (.injected c.operation) (u.tick c.operation) := by
  rw [failing, Call.run_extend]
  refine error_of_bind ?_ _
  rw [Counted.attempt_eq, if_pos h]
  rfl

/-- A call that is spared counts, and then does what it always does. -/
theorem run_failing_of_spared (c : Call α)
    (h : plan c.operation (u.count c.operation + 1) = false) :
    c.run (r.failing plan) u
      = onPart Counted.state (fun s u => { u with state := s }) .failure (c.run r)
        (u.tick c.operation) := by
  have hspared : ¬plan c.operation (u.count c.operation + 1) = true := by simp [h]
  rw [failing, Call.run_extend]
  refine Runs.bind_eq (a := ()) ?_ _
  rw [Runs, Counted.attempt_eq, if_neg hspared]
  rfl

/-- A call that succeeds was spared, and the reporter itself has succeeded. -/
private theorem runs_of_failing {c : Call α} {a : α} (h : Runs (c.run (r.failing plan)) u a w) :
    plan c.operation (u.count c.operation + 1) = false
      ∧ ∃ s, Runs (c.run r) u.state a s ∧ w = { u.tick c.operation with state := s } := by
  cases hplan : plan c.operation (u.count c.operation + 1) with
  -- a call that is to fail does not return
  | true =>
    rw [Runs, run_failing_of_injected c hplan] at h
    cases h
  | false =>
    rw [Runs, run_failing_of_spared c hplan] at h
    simp only [onPart] at h
    -- a call that returns was spared, and has returned from the report itself
    cases hc : c.run r (u.tick c.operation).state with
    | error e s =>
      rw [hc] at h
      cases h
    | ok b s =>
      rw [hc] at h
      cases h
      exact ⟨rfl, s, hc, rfl⟩

/-- A call that fails was made to, or was spared and failed by itself. -/
theorem failsUnder_of_failing {c : Call α} {e : Interruption ε}
    (h : c.run (r.failing plan) u = .error e w) : r.FailsUnder plan u e w := by
  cases hplan : plan c.operation (u.count c.operation + 1) with
  -- a call that is to fail has failed by the plan
  | true =>
    rw [run_failing_of_injected c hplan] at h
    cases h
    exact .injected c hplan
  | false =>
    rw [run_failing_of_spared c hplan] at h
    simp only [onPart] at h
    -- what was spared fails with the error of the report
    cases hc : c.run r (u.tick c.operation).state with
    | ok b s =>
      rw [hc] at h
      cases h
    | error e s =>
      rw [hc] at h
      cases h
      exact .failure c hplan hc

/-- A state that is reached under a plan has been spared by the plan up to there. -/
theorem Goes.spares (h : (r.failing plan).Goes u w) : Counted.Spares plan u w := by
  intro op n hlt hle
  cases h with
  | note flag n' hruns =>
    -- a note counts as no call
    simp only [Runs, failing, extend, onPart] at hruns
    cases hs : r.note flag n' u.state with
    | error e s =>
      rw [hs] at hruns
      cases hruns
    | ok a s =>
      rw [hs] at hruns
      cases hruns
      exact absurd hle (Nat.not_le.2 hlt)
  | call c hruns =>
    obtain ⟨hspared, s, -, rfl⟩ := runs_of_failing hruns
    simp only [Counted.tick] at hle
    -- the call counts for its own operation, and it was spared
    by_cases hop : op = c.operation
    · subst hop
      rw [if_pos rfl] at hle
      rwa [show n = u.count c.operation + 1 by omega]
    · rw [if_neg hop] at hle
      omega

/-- Calls by a plan go on as long as they are spared. -/
theorem Reaches.spares (h : (r.failing plan).Reaches u w) : Counted.Spares plan u w := by
  induction h with
  | refl =>
    intro op n hlt hle
    omega
  | @tail v w _ hgoes ih =>
    intro op n hlt hle
    by_cases hn : n ≤ v.count op
    · exact ih op n hlt hn
    · exact hgoes.spares op n (by omega) hle

end Reporter

/-- Notes are taken by a plan, too. -/
theorem Desk.exists_note_failing {r : Reporter Desk ReportError} (hr : IsReporter r)
    (plan : Operation → Nat → Bool) (flag : Bool) (n : Note) (u : Counted Desk) :
    ∃ d : Desk, Runs ((r.failing plan).note flag n) u () { u with state := d }
      ∧ d.report = u.state.report := by
  obtain ⟨d, hnote, hreport⟩ := hr.exists_note flag n u.state
  refine ⟨d, ?_, hreport⟩
  simp only [Runs, Reporter.failing, Reporter.extend, Reporter.onPart] at hnote ⊢
  rw [hnote]

/-- Whatever calls are made under a plan, they lead to a state that is reached under it. -/
theorem Desk.advances_failing {r : Reporter Desk ReportError} (hr : IsReporter r)
    (plan : Operation → Nat → Bool) : (r.failing plan).Advances (r.failing plan).Reaches := by
  refine Reporter.advances_reaches fun flag n u => ?_
  obtain ⟨d, h, -⟩ := exists_note_failing hr plan flag n u
  exact ⟨_, h⟩

/-- By a plan, the same calls are noted as without one, up to the call that fails. -/
theorem Desk.curtails_failing {r : Reporter Desk ReportError} (hr : IsReporter r)
    (plan : Operation → Nat → Bool) {α : Type} (c : Call α) :
    Curtails (fun (u : Counted Desk) d => u.state.Alike d) (fun u d => u.state.CallsWithin d)
      (c.run (r.failing plan)) (c.run r) where
  grows := by
    intro d a d' hruns u hwithin
    exact (curtails_call hr c).grows hruns u.state hwithin
  outcome := by
    intro u d halike a d' hruns
    cases hplan : plan c.operation (u.count c.operation + 1) with
    -- a call that is made to fail has noted nothing
    | true =>
      refine .inr ⟨_, _, Reporter.run_failing_of_injected c hplan, ?_⟩
      exact (curtails_call hr c).grows hruns u.state halike.callsWithin
    -- a call that is spared is the call on the desk itself
    | false =>
      simp only [Runs, Reporter.run_failing_of_spared c hplan, Reporter.onPart]
      rcases (curtails_call hr c).outcome halike hruns with ⟨d₁, hc, h⟩ | ⟨e, d₁, hc, h⟩
      · rw [Runs] at hc
        exact .inl ⟨{ u.tick c.operation with state := d₁ }, by rw [Counted.tick, hc], h⟩
      · exact .inr
          ⟨.failure e, { u.tick c.operation with state := d₁ }, by rw [Counted.tick, hc], h⟩

/-- Under a plan, too, notes make no difference to the report. -/
theorem Desk.curtails_note_failing {r : Reporter Desk ReportError} (hr : IsReporter r)
    (plan : Operation → Nat → Bool) (flag flag' : Bool) (n : Note) :
    Curtails (fun (u : Counted Desk) d => u.state.Alike d) (fun u d => u.state.CallsWithin d)
      ((r.failing plan).note flag n) (r.note flag' n) where
  grows := fun _ _ _ hruns u hwithin => (curtails_note hr flag flag' n).grows hruns u.state hwithin
  outcome := by
    intro u d halike a d' hruns
    simp only [Runs, Reporter.failing, Reporter.extend, Reporter.onPart]
    rcases (curtails_note hr flag flag' n).outcome halike hruns with ⟨d₁, hn, h⟩ | ⟨e, d₁, hn, h⟩
    · rw [Runs] at hn
      exact .inl ⟨{ u with state := d₁ }, by rw [hn], h⟩
    · exact .inr ⟨.failure e, { u with state := d₁ }, by rw [hn], h⟩

end Chronicle
