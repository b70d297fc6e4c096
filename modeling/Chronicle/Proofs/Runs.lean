/-!
# Runs that succeed

`Runs act s a s'` says that an action takes one state to another without failing. A program is
followed one bind after another, so what it does is read off what its parts do.
-/
namespace Chronicle

/-- Running `act` in `s` succeeds with `a` and leaves `s'`. -/
def Runs {ε σ α : Type} (act : EStateM ε σ α) (s : σ) (a : α) (s' : σ) : Prop :=
  act s = .ok a s'

namespace Runs

variable {ε σ α β : Type}

theorem pure (a : α) (s : σ) : Runs (Pure.pure a : EStateM ε σ α) s a s := rfl

theorem get (s : σ) : Runs (MonadState.get : EStateM ε σ σ) s s s := rfl

theorem change (f : σ → σ) (s : σ) : Runs (modify f : EStateM ε σ PUnit) s ⟨⟩ (f s) := rfl

/-- What follows a successful action runs in the state that the action leaves. -/
theorem bind {act : EStateM ε σ α} {next : α → EStateM ε σ β} {s s' s'' : σ} {a : α} {b : β}
    (h : Runs act s a s') (hnext : Runs (next a) s' b s'') : Runs (act >>= next) s b s'' := by
  simp only [Runs, Bind.bind, EStateM.bind] at *
  rw [h]
  exact hnext

theorem endsIn {act : EStateM ε σ α} {s s' s'' : σ} {a : α} (h : Runs act s a s')
    (heq : s' = s'') : Runs act s a s'' :=
  heq ▸ h

/-- After a successful action it only matters what follows. -/
theorem bind_eq {act : EStateM ε σ α} {s s' : σ} {a : α} (h : Runs act s a s')
    (next : α → EStateM ε σ β) : (act >>= next) s = next a s' := by
  simp only [Runs, Bind.bind, EStateM.bind] at *
  rw [h]

/-- A run ends in one state only. -/
theorem unique {act : EStateM ε σ α} {s s₁ s₂ : σ} {a₁ a₂ : α}
    (h₁ : Runs act s a₁ s₁) (h₂ : Runs act s a₂ s₂) : a₁ = a₂ ∧ s₁ = s₂ := by
  have h := h₁.symm.trans h₂
  simpa only [EStateM.Result.ok.injEq] using h

end Runs

end Chronicle
