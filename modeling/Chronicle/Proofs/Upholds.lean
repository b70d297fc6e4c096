/-!
# Computations that fail in certain ways only

`OnlyFails p x` says of a computation that it succeeds or fails with what `p` allows. For an action
on a state, `Upholds` adds an invariant that a success leaves as it was. Both are closed under
sequencing and choice, so a program is followed through its parts.
-/
namespace Chronicle

variable {σ ε α β : Type}

/-- A computation fails with faults of a kind only. -/
def OnlyFails (p : ε → Prop) (x : Except ε α) : Prop :=
  ∀ e, x = .error e → p e

namespace OnlyFails

variable {p : ε → Prop}

/-- What succeeds does not fail in any way. -/
theorem ok (a : α) : OnlyFails p (.ok a) :=
  nofun

/-- A failure that is allowed is one that is allowed. -/
theorem error {e : ε} (he : p e) : OnlyFails p (.error e : Except ε α) := by
  intro e' heq
  cases heq
  exact he

/-- One computation after another fails as one of the two does. -/
theorem bind {x : Except ε α} {next : α → Except ε β} (hx : OnlyFails p x)
    (hnext : ∀ a, OnlyFails p (next a)) : OnlyFails p (x >>= next) := by
  cases x with
  | ok a => exact hnext a
  | error e => exact .error (hx e rfl)

/-- To change the value of a success changes no failure. -/
theorem map {x : Except ε α} (hx : OnlyFails p x) (f : α → β) : OnlyFails p (x.map f) := by
  cases x with
  | ok a => exact .ok (f a)
  | error e => exact .error (hx e rfl)

/-- A choice between two computations fails as one of them does. -/
theorem ite {c : Prop} [Decidable c] {x y : Except ε α} (hx : OnlyFails p x)
    (hy : OnlyFails p y) : OnlyFails p (if c then x else y) := by
  split
  · exact hx
  · exact hy

/-- A computation that stops if something is wrong. -/
theorem guarded {c : Prop} [Decidable c] {e : ε} {next : PUnit → Except ε α} (he : p e)
    (hnext : OnlyFails p (next ⟨⟩)) :
    OnlyFails p (if c then throw e >>= next else next ⟨⟩) :=
  .ite (.bind (.error he) fun _ => hnext) hnext

end OnlyFails

/-- From a state with an invariant, an action fails with faults of a kind only, or it leaves a state
with the invariant. -/
structure Upholds (I : σ → Prop) (p : ε → Prop) (act : StateT σ (Except ε) α) : Prop where
  fails : ∀ s, I s → OnlyFails p (act s)
  keeps : ∀ s, I s → ∀ a s', act s = .ok (a, s') → I s'

namespace Upholds

variable {I : σ → Prop} {p : ε → Prop}

/-- An action that only returns leaves the state as it was, and with it the invariant. -/
theorem pure (a : α) : Upholds I p (Pure.pure a) where
  fails := fun _ _ => .ok _
  keeps := by
    intro s hs a' s' h
    cases h
    exact hs

/-- An action that only fails leaves no state to say anything of. -/
theorem throw {e : ε} (he : p e) : Upholds I p (throwThe ε e : StateT σ (Except ε) α) where
  fails := fun _ _ => .error he
  keeps := nofun

/-- A change of the state has to keep the invariant by itself. -/
theorem change {f : σ → σ} (hf : ∀ s, I s → I (f s)) :
    Upholds I p (modify f : StateT σ (Except ε) PUnit) where
  fails := fun _ _ => .ok _
  keeps := by
    intro s hs a' s' h
    cases h
    exact hf s hs

/-- A state that is put in place has to have the invariant by itself. -/
theorem set {s : σ} (hs : I s) : Upholds I p (MonadStateOf.set s : StateT σ (Except ε) PUnit) :=
  .change fun _ _ => hs

/-- What is done next can rely on what is returned. -/
theorem bindWith {act : StateT σ (Except ε) α} {next : α → StateT σ (Except ε) β}
    (hact : Upholds I p act)
    (hnext : ∀ s, I s → ∀ a s', act s = .ok (a, s') → Upholds I p (next a)) :
    Upholds I p (act >>= next) := by
  -- running both is running the second from where the first has ended
  have hrun : ∀ s, (act >>= next) s = act s >>= fun found => next found.1 found.2 := fun _ => rfl
  constructor
  -- it fails in the first part, or in the second one
  case fails =>
    intro s hs
    rw [hrun]
    cases hfound : act s with
    | error e => exact .error (hact.fails s hs e hfound)
    | ok found =>
      exact (hnext s hs found.1 found.2 hfound).fails _ (hact.keeps s hs _ _ hfound)
  -- it returns only if both have returned
  case keeps =>
    intro s hs b s'' h
    rw [hrun] at h
    cases hfound : act s with
    | error e =>
      rw [hfound] at h
      cases h
    | ok found =>
      rw [hfound] at h
      exact (hnext s hs found.1 found.2 hfound).keeps _ (hact.keeps s hs _ _ hfound) _ _ h

/-- Whatever the first action returns: if the second upholds the same, both together do. -/
theorem bind {act : StateT σ (Except ε) α} {next : α → StateT σ (Except ε) β}
    (hact : Upholds I p act) (hnext : ∀ a, Upholds I p (next a)) : Upholds I p (act >>= next) :=
  hact.bindWith fun _ _ a _ _ => hnext a

/-- What is done next may depend on the state, which has the invariant. -/
theorem get {next : σ → StateT σ (Except ε) α} (h : ∀ s, I s → Upholds I p (next s)) :
    Upholds I p (MonadState.get >>= next) where
  fails := fun s hs => (h s hs).fails s hs
  keeps := fun s hs => (h s hs).keeps s hs

/-- A choice between two actions upholds what both uphold. -/
theorem ite {c : Prop} [Decidable c] {act act' : StateT σ (Except ε) α} (hact : Upholds I p act)
    (hact' : Upholds I p act') : Upholds I p (if c then act else act') := by
  split
  · exact hact
  · exact hact'

/-- An action that stops if something is wrong. -/
theorem guarded {c : Prop} [Decidable c] {stop : StateT σ (Except ε) PUnit}
    {next : PUnit → StateT σ (Except ε) α} (hstop : Upholds I p stop)
    (hnext : Upholds I p (next ⟨⟩)) : Upholds I p (if c then stop >>= next else next ⟨⟩) :=
  .ite (.bind hstop fun _ => hnext) hnext

end Upholds

end Chronicle
