import Chronicle.Proofs.Runs
import Chronicle.Report.Reporter

/-!
# Actions that follow others

One action follows another when it does the same on a state that is related to the other's: it
returns the same and leaves a state that is related again. A condition says when it may fail
instead. What follows is closed under sequencing, so a program follows another one when its calls
do.
-/
namespace Chronicle

variable {σ τ ρ π ε ε' δ δ' α β : Type} {mayFail : Prop} {R : σ → τ → Prop}

/-- Whenever `act'` succeeds, `act` does so with the same result, or it fails where it may. -/
def Follows (mayFail : Prop) (R : σ → τ → Prop) (act : EStateM ε σ α) (act' : EStateM δ τ α) :
    Prop :=
  ∀ ⦃s t⦄, R s t → ∀ ⦃a t'⦄, Runs act' t a t' →
    (∃ s', Runs act s a s' ∧ R s' t') ∨ mayFail ∧ ∃ e s', act s = .error e s'

/-- A run of two actions is a run of each. -/
theorem Runs.exists_of_bind {act : EStateM ε σ α} {next : α → EStateM ε σ β} {s s'' : σ} {b : β}
    (h : Runs (act >>= next) s b s'') : ∃ a s', Runs act s a s' ∧ Runs (next a) s' b s'' := by
  simp only [Runs, Bind.bind, EStateM.bind] at h
  cases hact : act s with
  | ok a s' =>
    rw [hact] at h
    exact ⟨a, s', hact, h⟩
  | error e s' =>
    rw [hact] at h
    cases h

/-- What follows an action that fails is not run. -/
theorem error_of_bind {act : EStateM ε σ α} {s s' : σ} {e : ε} (h : act s = .error e s')
    (next : α → EStateM ε σ β) : (act >>= next) s = .error e s' := by
  simp only [Bind.bind, EStateM.bind, h]

namespace Follows

theorem pure (a : α) :
    Follows mayFail R (Pure.pure a : EStateM ε σ α) (Pure.pure a : EStateM δ τ α) := by
  intro s t hst a' t' h
  obtain ⟨rfl, rfl⟩ := h.unique (.pure a t)
  exact .inl ⟨s, .pure _ s, hst⟩

/-- Every action follows itself. -/
theorem refl (act : EStateM ε σ α) : Follows False (· = ·) act act := by
  rintro s _ rfl a s' h
  exact .inl ⟨s', h, rfl⟩

theorem bind {act : EStateM ε σ α} {act' : EStateM δ τ α} {next : α → EStateM ε σ β}
    {next' : α → EStateM δ τ β} (h : Follows mayFail R act act')
    (hnext : ∀ a, Follows mayFail R (next a) (next' a)) :
    Follows mayFail R (act >>= next) (act' >>= next') := by
  intro s t hst b t'' hruns
  obtain ⟨a, t', hfirst, hsecond⟩ := hruns.exists_of_bind
  rcases h hst hfirst with ⟨s', hs', hst'⟩ | ⟨hfail, e, s', hs'⟩
  · -- the first action has succeeded, so the second one decides
    rcases hnext a hst' hsecond with ⟨s'', hs'', hst''⟩ | ⟨hfail, e, s'', hs''⟩
    · exact .inl ⟨s'', hs'.bind hs'', hst''⟩
    · exact .inr ⟨hfail, e, s'', (hs'.bind_eq next).trans hs''⟩
  · exact .inr ⟨hfail, e, s', error_of_bind hs' next⟩

/-- What is done next may depend on the states, as long as it is related whenever they are. -/
theorem get {next : σ → EStateM ε σ α} {next' : τ → EStateM δ τ α}
    (h : ∀ s t, R s t → Follows mayFail R (next s) (next' t)) :
    Follows mayFail R (MonadState.get >>= next) (MonadState.get >>= next') :=
  fun s t hst => h s t hst hst

theorem ite {c : Prop} [Decidable c] {act₁ act₂ : EStateM ε σ α} {act₁' act₂' : EStateM δ τ α}
    (h₁ : Follows mayFail R act₁ act₁') (h₂ : Follows mayFail R act₂ act₂') :
    Follows mayFail R (if c then act₁ else act₂) (if c then act₁' else act₂') := by
  by_cases hc : c
  · rwa [if_pos hc, if_pos hc]
  · rwa [if_neg hc, if_neg hc]

theorem change {f : σ → σ} {g : τ → τ} (h : ∀ s t, R s t → R (f s) (g t)) :
    Follows mayFail R (modify f : EStateM ε σ PUnit) (modify g : EStateM δ τ PUnit) := by
  intro s t hst a t' hruns
  obtain ⟨rfl, rfl⟩ := hruns.unique (.change g t)
  exact .inl ⟨f s, .change f s, h s t hst⟩

/-- Actions on parts of states that are related whenever the states are. -/
theorem onPart {get : ρ → σ} {set : σ → ρ → ρ} {get' : π → τ} {set' : τ → π → π} {wrap : ε → ε'}
    {wrap' : δ → δ'} {Q : ρ → π → Prop} {act : EStateM ε σ α} {act' : EStateM δ τ α}
    (hget : ∀ p q, Q p q → R (get p) (get' q))
    (hset : ∀ p q s t, Q p q → R s t → Q (set s p) (set' t q)) (h : Follows mayFail R act act') :
    Follows mayFail Q (Reporter.onPart get set wrap act)
      (Reporter.onPart get' set' wrap' act') := by
  intro p q hpq a q' hruns
  simp only [Runs, Reporter.onPart] at hruns ⊢
  -- the other side has returned, so its part has
  cases hact' : act' (get' q) with
  | error e t' =>
    rw [hact'] at hruns
    cases hruns
  | ok b t' =>
    rw [hact'] at hruns
    cases hruns
    -- this side returns alike, or fails where it may
    rcases h (hget p q hpq) hact' with ⟨s', hs', hst'⟩ | ⟨hfail, e, s', hs'⟩
    · refine .inl ⟨set s' p, ?_, hset p q s' t' hpq hst'⟩
      rw [show act (get p) = .ok a s' from hs']
    · exact .inr ⟨hfail, wrap e, set s' p, by rw [hs']⟩

end Follows

/-- Whether something is a part of a state that can be read and replaced. -/
structure Reporter.IsPart (get : τ → σ) (set : σ → τ → τ) : Prop where
  get_set : ∀ s t, get (set s t) = s
  set_set : ∀ s s' t, set s (set s' t) = set s t

/-- Two actions on a part of a state are one action on it. -/
theorem Reporter.IsPart.onPart_bind {get : τ → σ} {set : σ → τ → τ} (h : IsPart get set)
    (wrap : ε → δ) (act : EStateM ε σ α) (next : α → EStateM ε σ β) :
    (onPart get set wrap act >>= fun a => onPart get set wrap (next a))
      = onPart get set wrap (act >>= next) := by
  funext t
  simp only [onPart, Bind.bind, EStateM.bind]
  cases hact : act (get t) with
  | error e s => rfl
  | ok a s =>
    simp only [h.get_set]
    cases hnext : next a s <;> simp only [h.set_set]

/-- An action on the whole of a state. -/
private theorem Reporter.onPart_id (act : EStateM ε σ α) :
    Reporter.onPart id (fun s _ => s) id act = act := by
  funext s
  rw [Reporter.onPart]
  cases h : act s <;> simp_all

/-- A reporter on the whole of its state. -/
theorem Reporter.extend_id (r : Reporter σ ε) :
    r.extend id (fun s _ => s) id (fun _ => pure ()) r.note = r := by
  simp only [extend, onPart_id]
  rfl

end Chronicle
