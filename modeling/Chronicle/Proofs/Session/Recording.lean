import Chronicle.Proofs.Session.Calls
import Chronicle.Proofs.Session.Results

/-!
# Recordings and their reports

A recorder on a new registry is asked one thing after another, and then the registry is drained.
What is asked only adds to the logs, so the report is made of the logs of the contexts:
`Workspace.forget_of_drainAll`. Each of the logs is replayed by itself, and its tests are told by
it: `Backend.tells_replayedAll`.
-/
namespace Chronicle

/-- A run of an action on a fixed state is found by computing it. -/
theorem exists_runs_of_computes {ε σ : Type} (act : EStateM ε σ Unit) (s : σ) (p : σ → Bool)
    (h : (match act s with | .ok _ s' => p s' | .error _ _ => false) = true) :
    ∃ s', Runs act s () s' ∧ p s' = true := by
  cases hact : act s with
  | ok a s' =>
    rw [hact] at h
    exact ⟨s', hact, h⟩
  | error e s' =>
    rw [hact] at h
    cases h

/-! ### Registries that have not been drained -/

/-- What nothing has been drained of: one session for each context that has been used, with its log
and nothing else. -/
structure Registry.IsUnread (r : Registry) (ids : List String) : Prop where
  nodup : ids.Nodup
  sessions : r.sessions = unread ids r.logOf
  others : ∀ id ∉ ids, r.logOf id = []

/-- A context with messages has a session for them. -/
theorem Registry.IsUnread.exists_session {r : Registry} {ids : List String} (h : r.IsUnread ids)
    (id : String) (hid : r.logOf id ≠ []) : ∃ s ∈ r.sessions, s.log = r.logOf id := by
  have hmem : id ∈ ids := by
    by_contra hnot
    exact hid (h.others id hnot)
  refine ⟨{ contextId := id, log := r.logOf id }, ?_, rfl⟩
  rw [h.sessions]
  exact List.mem_map_of_mem hmem

private theorem Registry.isUnread_useAll {defaultContext : String} {r : Registry}
    (hr : create defaultContext = .ok r) (uses : List Use) :
    (r.useAll uses).IsUnread (r.contexts uses) := by
  obtain ⟨-, rfl⟩ := eq_of_create hr
  have hlog : ∀ id, ({ defaultContext := defaultContext : Registry }.useAll uses).logOf id
      = { defaultContext := defaultContext : Registry }.messagesOf id uses := fun id =>
    (logOf_useAll _ uses id).trans (List.nil_append _)
  refine ⟨nodup_contexts _ uses, ?_, fun id hid => ?_⟩
  · rw [funext hlog]
    exact sessions_useAll rfl uses
  · rw [hlog, messagesOf_of_not_mem hid]

/-! ### Calls one after another -/

namespace Recorder

/-- A recorder that has not been asked for anything. -/
def onto (registry : Registry) (language framework : String) (clock : Nat → Int) : Recorder :=
  { registry := registry, language := language, framework := framework, clock := clock }

/-- Asks a recorder for one thing after another. -/
def performAll : List Call → Recording Unit
  | [] => pure ()
  | call :: rest => do
    let _ ← call.perform
    performAll rest

section

variable {call : Call} {calls before after : List Call} {answer : Option Bool} {r r' r'' : Recorder}

namespace Call.Done

variable (h : call.Done r answer r')

include h

theorem defaultContext : r'.registry.defaultContext = r.registry.defaultContext := by
  obtain ⟨uses, -, -, huses⟩ := h.uses
  rw [huses, Registry.defaultContext_useAll]

/-- A call adds its messages to the log of the active context, and to no other one. -/
theorem logOf (id : String) :
    r'.registry.logOf id
      = r.registry.logOf id ++ if id = r.context then call.messages r else [] := by
  obtain ⟨uses, huses, hmessages, hregistry⟩ := h.uses
  rw [hregistry, Registry.logOf_useAll_of_resolve huses, hmessages]

end Call.Done

theorem runs_performAll_append : Runs (performAll (before ++ after)) r () r''
    ↔ ∃ r', Runs (performAll before) r () r' ∧ Runs (performAll after) r' () r'' := by
  induction before generalizing r with
  | nil =>
    refine ⟨fun h => ⟨r, .pure () r, h⟩, fun ⟨r', hbefore, hafter⟩ => ?_⟩
    obtain ⟨-, rfl⟩ := (Runs.pure _ _).unique hbefore
    exact hafter
  | cons call rest ih =>
    constructor
    -- the first call comes before what is left of the calls
    · intro h
      obtain ⟨answer, r₁, hcall, h⟩ := h.exists_of_bind
      obtain ⟨r', hrest, hafter⟩ := ih.1 h
      exact ⟨r', hcall.bind hrest, hafter⟩
    · rintro ⟨r', hbefore, hafter⟩
      obtain ⟨answer, r₁, hcall, hrest⟩ := hbefore.exists_of_bind
      exact hcall.bind (ih.2 ⟨r', hrest, hafter⟩)

/-- What holds of a recorder at first and is kept by each call holds after all calls. -/
theorem performAll_induction {P : List Call → Recorder → Prop} (hfirst : P [] r)
    (hstep : ∀ calls call r' answer r'', Runs (performAll calls) r () r' → P calls r' →
      Runs call.perform r' answer r'' → P (calls ++ [call]) r'') :
    ∀ calls r', Runs (performAll calls) r () r' → P calls r' := by
  intro calls
  -- from the last call, since a run is extended by the call that comes next
  induction calls using List.reverseRecOn with
  | nil =>
    intro r' h
    obtain ⟨-, rfl⟩ := (Runs.pure _ _).unique h
    exact hfirst
  | append_singleton calls call ih =>
    intro r'' h
    obtain ⟨r', hcalls, h⟩ := runs_performAll_append.1 h
    obtain ⟨answer, r₁, hcall, h⟩ := h.exists_of_bind
    obtain ⟨-, rfl⟩ := (Runs.pure _ _).unique h
    exact hstep calls call r' answer r₁ hcalls (ih r' hcalls) hcall

/-- Calls only add to the logs. -/
theorem logOf_performAll (h : Runs (performAll calls) r () r') (id : String) :
    ∃ ms, r'.registry.logOf id = r.registry.logOf id ++ ms := by
  refine performAll_induction (P := fun _ r' => ∃ ms, r'.registry.logOf id
    = r.registry.logOf id ++ ms) ⟨[], (List.append_nil _).symm⟩ ?_ calls r' h
  rintro calls call r₁ answer r₂ - ⟨ms, hms⟩ hcall
  exact ⟨_, by rw [(Call.done hcall).logOf, hms, List.append_assoc]⟩

/-- A call among others leaves the logs of all contexts alone but that of the active one. -/
theorem exists_call (h : Runs (performAll (before ++ call :: after)) r () r'') :
    ∃ r₁ answer r₂, Runs (performAll before) r () r₁ ∧ Runs call.perform r₁ answer r₂
      ∧ Runs (performAll after) r₂ () r''
      ∧ ∀ id, id ≠ r₁.context → r₂.registry.logOf id = r₁.registry.logOf id := by
  obtain ⟨r₁, hbefore, hrest⟩ := runs_performAll_append.1 h
  obtain ⟨answer, r₂, hcall, hafter⟩ := hrest.exists_of_bind
  refine ⟨r₁, answer, r₂, hbefore, hcall, hafter, fun id hid => ?_⟩
  rw [(Call.done hcall).logOf, if_neg hid, List.append_nil]

/-- All that calls do to a registry is to use it. -/
private theorem exists_uses (h : Runs (performAll calls) r () r') :
    ∃ uses, r'.registry = r.registry.useAll uses := by
  refine performAll_induction (P := fun _ r' => ∃ uses, r'.registry = r.registry.useAll uses)
    ⟨[], rfl⟩ ?_ calls r' h
  rintro calls call r₁ answer r₂ - ⟨uses, hregistry⟩ hcall
  obtain ⟨uses', -, -, hregistry'⟩ := (Call.done hcall).uses
  refine ⟨uses ++ uses', ?_⟩
  rw [hregistry', hregistry, Registry.useAll, Registry.useAll, Registry.useAll, List.foldl_append]

end

/-- Recording drains nothing. -/
theorem exists_isUnread {defaultContext language framework : String} {registry : Registry}
    (hr : Registry.create defaultContext = .ok registry) {clock : Nat → Int} {calls : List Call}
    {r : Recorder} (h : Runs (performAll calls) (onto registry language framework clock) () r) :
    ∃ ids, r.registry.IsUnread ids := by
  obtain ⟨uses, hregistry⟩ := exists_uses h
  rw [hregistry]
  exact ⟨_, Registry.isUnread_useAll hr uses⟩

end Recorder

/-! ### Draining -/

/-- One log after another, the tests that are written are those that the logs tell. -/
theorem Backend.tells_replayedAll (isAfterAll : String → Bool) (sessions : List Session)
    (b : Backend) :
    ∃ tests, (b.replayedAll isAfterAll sessions).writtenTests = b.writtenTests ++ tests
      ∧ List.Forall₂ TestRun.Tells (sessions.flatMap fun s => testRuns isAfterAll s.log) tests := by
  induction sessions generalizing b with
  | nil => exact ⟨[], (List.append_nil _).symm, .nil⟩
  | cons s rest ih =>
    obtain ⟨tests, hwritten, htests⟩ := ih (b.replayed isAfterAll s.log)
    -- the tests of the first log tell its windows
    have hfirst := (Standing.forall₂_recounts b isAfterAll s.log).imp fun run r hr => by
      obtain ⟨st, c, hrecounts⟩ := hr
      exact hrecounts.tells
    refine ⟨((Standing.initial b).replay isAfterAll s.log).writtenTests ++ tests, ?_,
      List.rel_append hfirst htests⟩
    exact hwritten.trans (List.append_assoc _ _ _)

/-- A report that nothing has been done to: one in memory, or one in a results directory. -/
inductive Backend.IsNew : Backend → Prop
  | inMemory (disk : FileTree) : IsNew (inMemory disk)
  | inDirectory {disk : FileTree} {root : Path} {b : Backend} (hb : inDirectory disk root = .ok b) :
    IsNew b

theorem Backend.IsNew.forget {b : Backend} (hb : b.IsNew) : b.forget = Backend.inMemory {} := by
  cases hb with
  | inMemory disk => rfl
  | inDirectory hb => exact forget_inDirectory hb

namespace Workspace

variable {isAfterAll : String → Bool} {synchronised : Bool} {r : Registry} {ids : List String}
  {b : Backend}

/-- With notes or without them, a drain in memory succeeds. -/
theorem exists_runs_drainAll (isAfterAll : String → Bool) (synchronised : Bool)
    (hr : r.IsUnread ids) :
    ∃ w, Runs (drainAll (Desk.machine isAfterAll synchronised)) ⟨r, { report := .inMemory {} }⟩ () w
      ∧ w.world.report = (Backend.inMemory {}).replayedAll isAfterAll r.sessions := by
  have hreport := runs_drainAll isAfterAll synchronised hr.nodup (Backend.idle_inMemory {})
    hr.sessions
  have hstart : Related (fun (d : Desk) b => d.report = b) ⟨r, { report := .inMemory {} }⟩
      ⟨r, .inMemory {}⟩ := ⟨rfl, rfl⟩
  rcases (Desk.callsFollow_backend isAfterAll synchronised).drainAll hstart hreport with
    ⟨w, hw, hrelated⟩ | ⟨hfalse, -⟩
  · exact ⟨w, hw, hrelated.world.trans (by rw [hr.sessions])⟩
  · exact hfalse.elim

/-- A drain that succeeds leaves the report of the logs, wherever the report goes. -/
theorem forget_of_drainAll (hr : r.IsUnread ids) (hb : b.IsNew) {w : Workspace Desk}
    (hw : Runs (drainAll (Desk.machine isAfterAll synchronised)) ⟨r, { report := b }⟩ () w) :
    w.world.report.forget = (Backend.inMemory {}).replayedAll isAfterAll r.sessions := by
  obtain ⟨v, hv, hreport⟩ := exists_runs_drainAll isAfterAll synchronised hr
  have hstart : Related (Desk.Mirrors b) ⟨r, { report := b }⟩ ⟨r, { report := .inMemory {} }⟩ :=
    ⟨rfl, ⟨.refl, hb.forget⟩, rfl⟩
  rcases (Desk.callsFollow_memory b isAfterAll synchronised).drainAll hstart hv with
    ⟨w', hw', hrelated⟩ | ⟨-, e, w', herror⟩
  · obtain ⟨-, rfl⟩ := hw'.unique hw
    exact hrelated.world.report.forget.trans hreport
  · cases hw.symm.trans herror

/-- The tests of the report are those of the logs. -/
theorem tells_of_drainAll (hr : r.IsUnread ids) (hb : b.IsNew) {w : Workspace Desk}
    (hw : Runs (drainAll (Desk.machine isAfterAll synchronised)) ⟨r, { report := b }⟩ () w) :
    List.Forall₂ TestRun.Tells (r.sessions.flatMap fun s => testRuns isAfterAll s.log)
      w.world.report.writtenTests := by
  obtain ⟨tests, hwritten, htests⟩ := Backend.tells_replayedAll isAfterAll r.sessions (.inMemory {})
  have hsame : w.world.report.writtenTests = [] ++ tests :=
    (congrArg (·.writtenTests) (forget_of_drainAll hr hb hw)).trans hwritten
  rwa [hsame]

end Workspace

end Chronicle
