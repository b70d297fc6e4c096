import Chronicle.Proofs.Replay.Script
import Chronicle.Session.Registry

/-!
# What holds however an action ends

An action keeps a relation when it leads every state to a related one, whether it succeeds or fails.
What the calls and the notes of a reporter keep, replaying and draining keep as well:
`Workspace.keeps_drainAll`. Nothing is asked of notes but that, so they may fail.
-/
namespace Chronicle

variable {σ τ ε δ α β : Type}

/-- Every state is taken to a related one by `act`, however it ends. -/
def Keeps (P : σ → σ → Prop) (act : EStateM ε σ α) : Prop :=
  ∀ s, match act s with
    | .ok _ s' | .error _ s' => P s s'

namespace Keeps

variable {P : σ → σ → Prop}

/-- An action that succeeds keeps the relation. -/
theorem ok {act : EStateM ε σ α} (h : Keeps P act) {s s' : σ} {a : α} (hact : act s = .ok a s') :
    P s s' := by
  have hs := h s
  rwa [hact] at hs

/-- So does one that fails. -/
theorem error {act : EStateM ε σ α} (h : Keeps P act) {s s' : σ} {e : ε}
    (hact : act s = .error e s') : P s s' := by
  have hs := h s
  rwa [hact] at hs

/-- To do nothing keeps every reflexive relation. -/
theorem pure (hrefl : ∀ s, P s s) (a : α) : Keeps P (Pure.pure a : EStateM ε σ α) :=
  hrefl

/-- So does to fail at once. -/
theorem throw (hrefl : ∀ s, P s s) (e : ε) : Keeps P (MonadExcept.throw e : EStateM ε σ α) :=
  hrefl

/-- A change keeps the relation if it leads to related states. -/
theorem change {f : σ → σ} (h : ∀ s, P s (f s)) : Keeps P (modify f : EStateM ε σ PUnit) :=
  h

/-- Two actions keep a transitive relation if each does. -/
theorem bind (htrans : ∀ s t u, P s t → P t u → P s u) {act : EStateM ε σ α}
    {next : α → EStateM ε σ β} (h : Keeps P act) (hnext : ∀ a, Keeps P (next a)) :
    Keeps P (act >>= next) := by
  intro s
  simp only [Bind.bind, EStateM.bind]
  cases hact : act s with
  | error e s' => exact h.error hact
  | ok a s' =>
    simp only
    cases hrest : next a s' with
    | ok b s'' => exact htrans _ _ _ (h.ok hact) ((hnext a).ok hrest)
    | error e s'' => exact htrans _ _ _ (h.ok hact) ((hnext a).error hrest)

/-- What is done next may depend on the state. -/
theorem get {next : σ → EStateM ε σ α} (h : ∀ s, Keeps P (next s)) :
    Keeps P (MonadState.get >>= next) :=
  fun s => h s s

/-- An action on a part of a state. -/
theorem onPart {get : τ → σ} {set : σ → τ → τ} {wrap : ε → δ} {Q : τ → τ → Prop}
    {act : EStateM ε σ α} (hset : ∀ t s, P (get t) s → Q t (set s t)) (h : Keeps P act) :
    Keeps Q (Reporter.onPart get set wrap act) := by
  intro t
  simp only [Reporter.onPart]
  cases hact : act (get t) with
  | ok a s => exact hset t s (h.ok hact)
  | error e s => exact hset t s (h.error hact)

end Keeps

/-! ### Replaying and draining -/

/-- The calls and the notes of a reporter keep a relation, which is reflexive and transitive. -/
structure Reporter.Keeping (r : Reporter σ ε) (P : σ → σ → Prop) : Prop where
  refl : ∀ s, P s s
  trans : ∀ s t u, P s t → P t u → P s u
  call : ∀ {γ : Type} (c : Call γ), Keeps P (c.run r)
  note : ∀ flag n, Keeps P (r.note flag n)

variable {P : σ → σ → Prop} {m : Machine σ ε}

/-- A script keeps what its calls and notes keep. -/
theorem Machine.Parallel.keeps {m' : Machine τ δ} (hr : m.reporter.Keeping P)
    {act : Replay σ ε α} {act' : Replay τ δ α} (h : Parallel m m' act act') :
    Keeps (fun p q : Pass σ => P p.world q.world) act := by
  have htrans : ∀ p q r : Pass σ, P p.world q.world → P q.world r.world → P p.world r.world :=
    fun _ _ _ => hr.trans _ _ _
  -- only calls and notes reach the world
  induction h with
  | pure a => exact .pure (fun p => hr.refl p.world) a
  | session => exact fun p => hr.refl p.world
  | change f hf => exact fun p => hr.refl p.world
  | call c => exact (hr.call c).onPart fun p w hP => hP
  | remark r =>
    refine .bind htrans (fun p => hr.refl p.world) fun s => ?_
    exact (hr.note _ _).onPart fun p w hP => hP
  | bind h hnext ih ihnext => exact .bind htrans ih ihnext

/-- A replay keeps what its calls and notes keep. -/
private theorem Machine.keeps_replay (hr : m.reporter.Keeping P) (synchronised : Bool) :
    Keeps (fun p q : Pass σ => P p.world q.world)
      ({ m with synchronised := synchronised } : Machine σ ε).replay := by
  let n : Machine σ ε := { m with synchronised := synchronised }
  have hscript : Parallel n n n.replay n.replay := .replay rfl
  have hr' : n.reporter.Keeping P := hr
  exact hscript.keeps hr'

namespace Workspace

/-- So does the replay of a session of the registry. -/
private theorem keeps_replaySession (hr : m.reporter.Keeping P) (s : Session) :
    Keeps (fun w w' : Workspace σ => P w.world w'.world) (replaySession m s) := by
  intro w
  simp only [replaySession]
  cases hreplay : ({ m with synchronised := w.registry.isSynchronised } : Machine σ ε).replay
      ⟨s, w.world⟩ with
  | ok a p => exact (Machine.keeps_replay hr _).ok hreplay
  | error e p => exact (Machine.keeps_replay hr _).error hreplay

/-- So do the replays of several, by induction on them. -/
private theorem keeps_drainSessions (hr : m.reporter.Keeping P) (sessions : List Session) :
    Keeps (fun w w' : Workspace σ => P w.world w'.world) (drainSessions m sessions) := by
  have htrans : ∀ u v w : Workspace σ, P u.world v.world → P v.world w.world → P u.world w.world :=
    fun _ _ _ => hr.trans _ _ _
  induction sessions with
  | nil => exact .pure (fun w => hr.refl w.world) ()
  | cons s rest ih =>
    refine .bind htrans (keeps_replaySession hr s) fun _ => ?_
    refine .bind htrans (.change fun w => hr.refl w.world) fun _ => .get fun w => ?_
    exact .bind htrans ((hr.note _ _).onPart fun w w' hP => hP) fun _ => ih

/-- Draining keeps what the calls and notes of its reporter keep. -/
theorem keeps_drainAll (hr : m.reporter.Keeping P) :
    Keeps (fun w w' : Workspace σ => P w.world w'.world) (drainAll m) := by
  intro w
  have hdrain := keeps_drainSessions hr w.registry.sessions
    ⟨{ w.registry with draining := true }, w.world⟩
  simp only [drainAll]
  split at hdrain <;> simp_all

/-! ### What is left in the registry -/

/-- A replay leaves the contexts of the registry as they are. -/
private theorem contextIds_replaySession {s : Session} {w w' : Workspace σ}
    (h : Runs (replaySession m s) w () w') :
    w'.registry.sessions.map (·.contextId) = w.registry.sessions.map (·.contextId) := by
  simp only [Runs, replaySession] at h
  split at h
  next p hreplay =>
    cases h
    rw [List.map_map]
    refine List.map_congr_left fun t _ => ?_
    by_cases ht : t.contextId = p.session.contextId <;> simp [ht]
  next => cases h

/-- A note leaves the registry alone. -/
private theorem registry_of_note {act : EStateM ε σ Unit} {w w' : Workspace σ}
    (h : Runs (Reporter.onPart Workspace.world (fun world w => { w with world := world }) id act)
      w () w') : w'.registry = w.registry := by
  simp only [Runs, Reporter.onPart] at h
  split at h <;> cases h
  rfl

/-- The sessions that were drained have left the registry, and no others have come. -/
private theorem contextIds_drainSessions {sessions : List Session} {w w' : Workspace σ}
    (h : Runs (drainSessions m sessions) w () w') :
    ∀ s ∈ w'.registry.sessions, s.contextId ∈ w.registry.sessions.map (·.contextId)
      ∧ s.contextId ∉ sessions.map (·.contextId) := by
  induction sessions generalizing w with
  | nil =>
    cases h
    exact fun s hs => ⟨List.mem_map_of_mem hs, List.not_mem_nil⟩
  | cons t rest ih =>
    -- a session is replayed, removed, and noted before the next one
    obtain ⟨_, w₁, hreplay, h⟩ := h.exists_of_bind
    obtain ⟨_, w₂, hremove, h⟩ := h.exists_of_bind
    obtain ⟨_, w₃, hget, h⟩ := h.exists_of_bind
    obtain ⟨_, w₄, hnote, hrest⟩ := h.exists_of_bind
    -- the session that has been replayed is gone, and the rest go on from there
    have hleft : w₄.registry.sessions
        = w₁.registry.sessions.filter (·.contextId != t.contextId) := by
      cases hremove
      cases hget
      rw [registry_of_note hnote]
    intro s hs
    obtain ⟨hmem, hnot⟩ := ih hrest s hs
    rw [hleft] at hmem
    obtain ⟨u, hu, heq⟩ := List.mem_map.1 hmem
    obtain ⟨hu, hne⟩ := List.mem_filter.1 hu
    rw [← contextIds_replaySession hreplay, ← heq]
    refine ⟨List.mem_map_of_mem hu, ?_⟩
    rw [List.map_cons, List.mem_cons, not_or, heq]
    exact ⟨by simpa [heq] using hne, hnot⟩

/-- Nothing is left in the registry by a drain that succeeds. -/
theorem sessions_drainAll {w w' : Workspace σ} (h : Runs (drainAll m) w () w') :
    w'.registry.sessions = [] := by
  simp only [Runs, drainAll] at h
  split at h
  next hdrain =>
    cases h
    refine List.eq_nil_iff_forall_not_mem.2 fun s hs => ?_
    obtain ⟨hmem, hnot⟩ := contextIds_drainSessions hdrain s hs
    exact hnot hmem
  next => cases h

end Workspace

end Chronicle
