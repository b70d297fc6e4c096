import Chronicle.Proofs.Follows

/-!
# Actions that may stop short

One action curtails another when, on related states, it does the same as the other or fails on the
way there; where it fails, its state is one that the other has not passed yet. As for actions that
follow others, a program curtails another one when its calls do.
-/
namespace Chronicle

variable {σ τ ρ π ε ε' δ δ' α β : Type} {R V : σ → τ → Prop}

/-- What an action fails with in a state, if it does. -/
def error? (act : EStateM ε σ α) (s : σ) : Option ε :=
  match act s with
  | .ok _ _ => none
  | .error e _ => some e

theorem exists_of_error?_eq_some {act : EStateM ε σ α} {s : σ} {e : ε} (h : error? act s = some e) :
    ∃ s', act s = .error e s' := by
  rw [error?] at h
  cases hact : act s with
  | ok a s' => rw [hact] at h; cases h
  | error e' s' => rw [hact] at h; cases h; exact ⟨s', rfl⟩

theorem exists_of_error?_eq_none {act : EStateM ε σ α} {s : σ} (h : error? act s = none) :
    ∃ a s', Runs act s a s' := by
  rw [error?] at h
  cases hact : act s with
  | ok a s' => exact ⟨a, s', hact⟩
  | error e s' => rw [hact] at h; cases h

/-- Whenever `act'` succeeds, `act` does so with the same result, or it fails in a state that `V`
places before the one that `act'` leaves. -/
structure Curtails (R V : σ → τ → Prop) (act : EStateM ε σ α) (act' : EStateM δ τ α) : Prop where
  /-- What is placed before a state is placed before all that comes after it. -/
  grows : ∀ ⦃t a t'⦄, Runs act' t a t' → ∀ s, V s t → V s t'
  outcome : ∀ ⦃s t⦄, R s t → ∀ ⦃a t'⦄, Runs act' t a t' →
    (∃ s', Runs act s a s' ∧ R s' t') ∨ ∃ e s', act s = .error e s' ∧ V s' t'

namespace Curtails

theorem pure (a : α) :
    Curtails R V (Pure.pure a : EStateM ε σ α) (Pure.pure a : EStateM δ τ α) where
  grows := by
    intro t a' t' h s hst
    obtain ⟨-, rfl⟩ := h.unique (.pure a t)
    exact hst
  outcome := by
    intro s t hst a' t' h
    obtain ⟨rfl, rfl⟩ := h.unique (.pure a t)
    exact .inl ⟨s, .pure _ s, hst⟩

theorem bind {act : EStateM ε σ α} {act' : EStateM δ τ α} {next : α → EStateM ε σ β}
    {next' : α → EStateM δ τ β} (h : Curtails R V act act')
    (hnext : ∀ a, Curtails R V (next a) (next' a)) :
    Curtails R V (act >>= next) (act' >>= next') where
  grows := by
    intro t b t'' hruns s hst
    obtain ⟨a, t', hfirst, hsecond⟩ := hruns.exists_of_bind
    exact (hnext a).grows hsecond s (h.grows hfirst s hst)
  outcome := by
    intro s t hst b t'' hruns
    obtain ⟨a, t', hfirst, hsecond⟩ := hruns.exists_of_bind
    rcases h.outcome hst hfirst with ⟨s', hs', hst'⟩ | ⟨e, s', hs', hbefore⟩
    · rcases (hnext a).outcome hst' hsecond with ⟨s'', hs'', hst''⟩ | ⟨e, s'', hs'', hbefore⟩
      · exact .inl ⟨s'', hs'.bind hs'', hst''⟩
      · exact .inr ⟨e, s'', (hs'.bind_eq next).trans hs'', hbefore⟩
    · -- the other action goes on from here, and gets further away
      exact .inr ⟨e, s', error_of_bind hs' next, (hnext a).grows hsecond s' hbefore⟩

/-- What is done next may depend on the states, if every state of the other action has a related
one. -/
theorem get {next : σ → EStateM ε σ α} {next' : τ → EStateM δ τ α} (hrelated : ∀ t, ∃ s, R s t)
    (h : ∀ s t, R s t → Curtails R V (next s) (next' t)) :
    Curtails R V (MonadState.get >>= next) (MonadState.get >>= next') where
  grows := by
    intro t a t' hruns
    obtain ⟨s, hst⟩ := hrelated t
    exact (h s t hst).grows hruns
  outcome := fun s t hst _ _ hruns => (h s t hst).outcome hst hruns

/-- An action that always fails is curtailed by any other. -/
theorem throw (act : EStateM ε σ α) (e : δ) : Curtails R V act (throw e : EStateM δ τ α) where
  grows := by
    intro t a t' h
    cases h
  outcome := by
    intro s t _ a t' h
    cases h

theorem change {f : σ → σ} {g : τ → τ} (hR : ∀ s t, R s t → R (f s) (g t))
    (hV : ∀ s t, V s t → V s (g t)) :
    Curtails R V (modify f : EStateM ε σ PUnit) (modify g : EStateM δ τ PUnit) where
  grows := by
    intro t a t' h s hst
    obtain ⟨-, rfl⟩ := h.unique (.change g t)
    exact hV s t hst
  outcome := by
    intro s t hst a t' h
    obtain ⟨rfl, rfl⟩ := h.unique (.change g t)
    exact .inl ⟨f s, .change f s, hR s t hst⟩

/-- Actions on parts of states. -/
theorem onPart {get : ρ → σ} {set : σ → ρ → ρ} {get' : π → τ} {set' : τ → π → π} {wrap : ε → ε'}
    {wrap' : δ → δ'} {Q W : ρ → π → Prop} {act : EStateM ε σ α} {act' : EStateM δ τ α}
    (hget : ∀ p q, Q p q → R (get p) (get' q))
    (hset : ∀ p q s t, Q p q → R s t → Q (set s p) (set' t q))
    (hV : ∀ p q, W p q ↔ V (get p) (get' q)) (hpart : ∀ s p, get (set s p) = s)
    (hpart' : ∀ t q, get' (set' t q) = t) (h : Curtails R V act act') :
    Curtails Q W (Reporter.onPart get set wrap act) (Reporter.onPart get' set' wrap' act') where
  grows := by
    intro q a q' hruns p hpq
    simp only [Runs, Reporter.onPart] at hruns
    -- the other side has returned, so its part has
    cases hact : act' (get' q) with
    | error e t' =>
      rw [hact] at hruns
      cases hruns
    | ok b t' =>
      rw [hact] at hruns
      cases hruns
      rw [hV, hpart']
      exact h.grows hact _ ((hV p q).1 hpq)
  outcome := by
    intro p q hpq a q' hruns
    simp only [Runs, Reporter.onPart] at hruns ⊢
    cases hact : act' (get' q) with
    | error e t' =>
      rw [hact] at hruns
      cases hruns
    | ok b t' =>
      rw [hact] at hruns
      cases hruns
      rcases h.outcome (hget p q hpq) hact with ⟨s', hs', hst'⟩ | ⟨e, s', hs', hbefore⟩
      -- the part returns on this side as well
      · refine .inl ⟨set s' p, ?_, hset p q s' t' hpq hst'⟩
        rw [show act (get p) = .ok a s' from hs']
      -- the part has failed, with no more behind it than the other side has
      · refine .inr ⟨wrap e, set s' p, by rw [hs'], ?_⟩
        rw [hV, hpart, hpart']
        exact hbefore

end Curtails

end Chronicle
