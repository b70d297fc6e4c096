import Chronicle.Proofs.Report.Interruption

/-!
# Replays whose calls may be refused

A reporter that may refuse a call makes it of the report that it shows, or refuses it and leaves the
report alone. `Machine.Attempts` says what a replay into such a reporter does to the session and the
report, when it succeeds and when a call of it has been refused. It is closed under sequencing, so
it is shown handler by handler.
-/
namespace Chronicle

variable {σ δ α β : Type}

/-! ### Reporters that refuse calls -/

/-- The report that a reporter shows, and how it refuses calls. -/
structure Facade (σ δ : Type) where
  /-- The report that is behind a state. -/
  shows : σ → Backend → Prop
  /-- The report that is behind a state after a call has been refused. -/
  remains : σ → Backend → Prop
  /-- Whether a call of an operation is refused with an error. -/
  refuses : Operation → δ → Prop

/-- What would succeed on the report succeeds, or it is refused. Notes are always taken. -/
structure Reporter.Serves (r : Reporter σ δ) (F : Facade σ δ) : Prop where
  call : ∀ {γ : Type} (c : Call γ) {w : σ} {b b' : Backend} {a : γ}, F.shows w b →
    Runs (c.run Backend.reporter) b a b' →
    (∃ w', Runs (c.run r) w a w' ∧ F.shows w' b')
      ∨ ∃ e w', c.run r w = .error e w' ∧ F.refuses c.operation e ∧ F.remains w' b
  note : ∀ flag n {w : σ} {b : Backend}, F.shows w b →
    ∃ w', Runs (r.note flag n) w () w' ∧ F.shows w' b

namespace Machine

/-- On a session and a report for which `I` holds, a part of a replay succeeds and `Q` holds, or a
call of it has been refused and `E` holds. -/
def Attempts (F : Facade σ δ) (I : Session → Backend → Prop) (act : Replay σ δ α)
    (Q : α → Session → Backend → Prop) (E : Operation → Session → Backend → Prop) : Prop :=
  ∀ ⦃p b⦄, F.shows p.world b → I p.session b →
    (∃ a q b', Runs act p a q ∧ F.shows q.world b' ∧ Q a q.session b')
      ∨ ∃ e q op b', act p = .error e q ∧ F.refuses op e ∧ F.remains q.world b'
        ∧ E op q.session b'

variable {F : Facade σ δ} {m : Machine σ δ} {I I' : Session → Backend → Prop}
  {E : Operation → Session → Backend → Prop}

namespace Attempts

theorem pure {Q : α → Session → Backend → Prop} (a : α) (h : ∀ s b, I s b → Q a s b) :
    Attempts F I (Pure.pure a) Q E := fun p b hshows hI =>
  .inl ⟨a, p, b, .pure a p, hshows, h _ _ hI⟩

theorem bind {act : Replay σ δ α} {next : α → Replay σ δ β} {Q : α → Session → Backend → Prop}
    {Q' : β → Session → Backend → Prop} (h : Attempts F I act Q E)
    (hnext : ∀ a, Attempts F (Q a) (next a) Q' E) : Attempts F I (act >>= next) Q' E := by
  intro p b hshows hI
  rcases h hshows hI with ⟨a, q, b', hruns, hshows', hQ⟩ | ⟨e, q, op, b', herror, hrest⟩
  · have hbind := hruns.bind_eq next
    rcases hnext a hshows' hQ with ⟨a', q', b'', hruns', hrest⟩ | ⟨e, q', op, b'', herror, hrest⟩
    · exact .inl ⟨a', q', b'', hbind.trans hruns', hrest⟩
    · exact .inr ⟨e, q', op, b'', hbind.trans herror, hrest⟩
  · exact .inr ⟨e, q, op, b', error_of_bind herror next, hrest⟩

/-- More is known before, or less is said afterwards. -/
theorem imp {act : Replay σ δ α} {Q Q' : α → Session → Backend → Prop} (h : Attempts F I act Q E)
    (hI : ∀ s b, I' s b → I s b) (hQ : ∀ a s b, Q a s b → Q' a s b) :
    Attempts F I' act Q' E := by
  intro p b hshows hI'
  rcases h hshows (hI _ _ hI') with ⟨a, q, b', hruns, hshows', hend⟩ | herror
  · exact .inl ⟨a, q, b', hruns, hshows', hQ _ _ _ hend⟩
  · exact .inr herror

/-- Less is said about a refusal. -/
theorem imp_refused {act : Replay σ δ α} {Q : α → Session → Backend → Prop}
    {E' : Operation → Session → Backend → Prop} (h : Attempts F I act Q E)
    (hE : ∀ op s b, E op s b → E' op s b) : Attempts F I act Q E' := by
  intro p b hshows hI
  rcases h hshows hI with hruns | ⟨e, q, op, b', herror, hrefuses, hremains, hend⟩
  · exact .inl hruns
  · exact .inr ⟨e, q, op, b', herror, hrefuses, hremains, hE _ _ _ hend⟩

theorem ite {c : Prop} [Decidable c] {act act' : Replay σ δ α} {Q : α → Session → Backend → Prop}
    (h : c → Attempts F I act Q E) (h' : ¬c → Attempts F I act' Q E) :
    Attempts F I (if c then act else act') Q E := by
  by_cases hc : c
  · rw [if_pos hc]
    exact h hc
  · rw [if_neg hc]
    exact h' hc

/-- What is done next may depend on the session. -/
theorem session {next : Session → Replay σ δ α} {Q : α → Session → Backend → Prop}
    (h : ∀ s₀, Attempts F (fun s b => s = s₀ ∧ I s b) (next s₀) Q E) :
    Attempts F I (Machine.session >>= next) Q E := fun p _ hshows hI =>
  h p.session hshows ⟨rfl, hI⟩

theorem change {f : Session → Session} {Q : Unit → Session → Backend → Prop}
    (h : ∀ s b, I s b → Q () (f s) b) : Attempts F I (changeSession f) Q E := fun p b hshows hI =>
  .inl ⟨(), _, b, .change _ p, hshows, h _ _ hI⟩

/-- A call succeeds if it does so on the report, or it is refused and nothing has happened. -/
theorem call (hr : m.reporter.Serves F) (c : Call α) {Q : α → Session → Backend → Prop}
    (h : ∀ s b, I s b → ∃ a b', Runs (c.run Backend.reporter) b a b' ∧ Q a s b')
    (hE : ∀ s b, I s b → E c.operation s b) :
    Attempts F I (Machine.call (c.run m.reporter)) Q E := by
  intro p b hshows hI
  obtain ⟨a, b', hruns, hQ⟩ := h p.session b hI
  rcases hr.call c hshows hruns with ⟨w, hcall, hshows'⟩ | ⟨e, w, herror, hrefuses, hremains⟩
  · refine .inl ⟨a, { p with world := w }, b', ?_, hshows', hQ⟩
    simp only [Runs, Machine.call, Reporter.onPart] at hcall ⊢
    rw [hcall]
  · refine .inr ⟨e, { p with world := w }, c.operation, b, ?_, hrefuses, hremains, hE _ _ hI⟩
    simp only [Machine.call, Reporter.onPart, herror, id]

theorem remark (hr : m.reporter.Serves F) (r : Remark) :
    Attempts F I (m.remark r) (fun _ => I) E := by
  refine .session fun s₀ p b hshows ⟨_, hI⟩ => ?_
  obtain ⟨w, hnote, hshows'⟩ := hr.note m.synchronised ⟨s₀.contextId, r⟩ hshows
  refine .inl ⟨(), { p with world := w }, b, ?_, hshows', hI⟩
  simp only [Runs, Machine.call, Reporter.onPart] at hnote ⊢
  rw [hnote]

end Attempts

end Machine

/-! ### One call that fails -/

/-- The plan by which a single call fails, the `k`-th one of an operation. -/
def Operation.failsAt (op : Operation) (k : Nat) : Operation → Nat → Bool :=
  fun o n => o = op && n = k

namespace Desk

variable {r : Reporter Desk ReportError} {plan : Operation → Nat → Bool} {op : Operation} {k : Nat}

/-- A desk at which the call that fails is still to come or has come already. -/
def beforeFailure (op : Operation) (k : Nat) :
    Facade (Counted Desk) (Interruption ReportError) where
  shows u b := u.state.report = b
  remains u b := k ≤ u.count op ∧ u.state.report = b
  refuses o e := o = op ∧ e = .injected op

/-- A desk at which the call that fails has come already. -/
def afterFailure (op : Operation) (k : Nat) :
    Facade (Counted Desk) (Interruption ReportError) where
  shows u b := k ≤ u.count op ∧ u.state.report = b
  remains _ _ := False
  refuses _ _ := False

/-- A call that is spared is the call of the report. -/
private theorem runs_failing (hr : IsReporter r) {α : Type} (c : Call α) {u : Counted Desk} {a : α}
    {b : Backend} (h : plan c.operation (u.count c.operation + 1) = false)
    (hruns : Runs (c.run Backend.reporter) u.state.report a b) :
    Runs (c.run (r.failing plan)) u a
      { u.tick c.operation with state := u.state.withReport b } := by
  rw [Runs] at hruns
  rw [Runs, Reporter.run_failing_of_spared c h, hr.run_eq]
  simp only [Reporter.onPart, Counted.tick, hruns]

theorem serves_beforeFailure (hr : IsReporter r) (op : Operation) (k : Nat) :
    (r.failing (op.failsAt k)).Serves (beforeFailure op k) where
  call := by
    rintro γ c u _ b a rfl hruns
    cases hplan : op.failsAt k c.operation (u.count c.operation + 1) with
    | false => exact .inl ⟨_, runs_failing hr c hplan hruns, rfl⟩
    -- the call is the one that is to fail
    | true =>
      obtain ⟨rfl, rfl⟩ : c.operation = op ∧ u.count c.operation + 1 = k := by
        simpa [Operation.failsAt] using hplan
      refine .inr ⟨_, _, Reporter.run_failing_of_injected c hplan, ⟨rfl, rfl⟩, ?_, rfl⟩
      simp [Counted.tick]
  note := by
    rintro flag n u _ rfl
    obtain ⟨d, hnote, hreport⟩ := exists_note_failing hr _ flag n u
    exact ⟨_, hnote, hreport⟩

/-- Once the call that fails has come, all calls are spared. -/
theorem serves_afterFailure (hr : IsReporter r) (op : Operation) (k : Nat) :
    (r.failing (op.failsAt k)).Serves (afterFailure op k) where
  call := by
    rintro γ c u _ b a ⟨hcount, rfl⟩ hruns
    -- the count has passed the call that failed
    have hspared : op.failsAt k c.operation (u.count c.operation + 1) = false := by
      rw [Operation.failsAt, Bool.and_eq_false_imp]
      intro hop
      rw [of_decide_eq_true hop, decide_eq_false_iff_not]
      omega
    refine .inl ⟨_, runs_failing hr c hspared hruns, ?_, rfl⟩
    simp only [Counted.tick]
    -- a call of that kind counts, and any other leaves the count
    split
    · rename_i hop
      rw [← hop]
      omega
    · exact hcount
  note := by
    rintro flag n u _ ⟨hcount, rfl⟩
    obtain ⟨d, hnote, hreport⟩ := exists_note_failing hr _ flag n u
    exact ⟨_, hnote, hcount, hreport⟩

end Desk

end Chronicle
