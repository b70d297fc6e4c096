import Chronicle.Proofs.Replay.Outcome

/-!
# The life of a handle

`callsOn h calls` is what is called with one handle. In a whole replay that is a complete life: a
scope is opened and written, a test started, changed and written, a fixture started, changed and
stopped, each of them once. `Tracked` is the invariant behind it: what is open has a life that has
begun, and every other handle a life that is complete.
-/
namespace Chronicle

/-- The operations that are called with a handle, in order. -/
def callsOn (h : Handle) (calls : List (Operation × Handle)) : List Operation :=
  (calls.filter fun call => call.2 = h).map (·.1)

/-- One more call on a handle is the last of those on it. -/
theorem callsOn_snoc_self (h : Handle) (calls : List (Operation × Handle)) (op : Operation) :
    callsOn h (calls ++ [(op, h)]) = callsOn h calls ++ [op] := by
  simp [callsOn]

/-- A call on another handle is none on this. -/
theorem callsOn_snoc_of_ne {h x : Handle} (hne : h ≠ x) (calls : List (Operation × Handle))
    (op : Operation) : callsOn x (calls ++ [(op, h)]) = callsOn x calls := by
  simp [callsOn, hne]

/-- The lives that a handle can have in a whole replay. -/
inductive Lifecycle : List Operation → Prop
  /-- Nothing is called with the handle. -/
  | unused : Lifecycle []
  /-- A scope is opened and written. -/
  | scope : Lifecycle [.startScope, .writeScope]
  /-- A test is started and written. It is changed in between, and stopped at most once. -/
  | test {ops : List Operation}
      (hops : ∀ op ∈ ops, op = .updateTest ∨ op = .stopTest ∨ op = .applyMessages)
      (hstop : ops.count .stopTest ≤ 1) : Lifecycle (.startTest :: ops ++ [.writeTest])
  /-- A fixture is started and stopped. It is changed in between. -/
  | fixture (n : Nat) :
      Lifecycle (.startFixture :: List.replicate n .updateFixture ++ [.stopFixture])

namespace Standing

/-- The lives that have begun and are not complete. -/
def Begun : NodeState → List Operation → Prop
  | .scope, ops => ops = [.startScope]
  | .test ended, ops =>
    ∃ rest, ops = .startTest :: rest
      ∧ (∀ op ∈ rest, op = .updateTest ∨ op = .stopTest ∨ op = .applyMessages)
      ∧ rest.count .stopTest = ended.toNat
  | .fixture, ops => ∃ n, ops = .startFixture :: List.replicate n .updateFixture

/-- What has just been opened has a life that has begun. -/
private theorem begun_opener {k : NodeState} (hk : k ≠ .test true) : Begun k [k.opener] := by
  rcases k with _ | (_ | _) | _
  · rfl
  · exact ⟨[], rfl, nofun, rfl⟩
  · exact absurd rfl hk
  · exact ⟨0, rfl⟩

/-- A life that has begun goes on with what its state allows. -/
theorem Begun.snoc {k k' : NodeState} {op : Operation} {ops : List Operation} (hb : Begun k ops)
    (hop : k.Allows op k') : Begun k' (ops ++ [op]) := by
  -- one case for each operation that is allowed, each added at the end
  cases hop with
  | updateTest ended =>
    obtain ⟨rest, rfl, hrest, hcount⟩ := hb
    refine ⟨rest ++ [.updateTest], rfl, ?_, by simpa using hcount⟩
    simpa [or_imp, forall_and] using hrest
  | applyMessages ended =>
    obtain ⟨rest, rfl, hrest, hcount⟩ := hb
    refine ⟨rest ++ [.applyMessages], rfl, ?_, by simpa using hcount⟩
    simpa [or_imp, forall_and] using hrest
  | stopTest =>
    obtain ⟨rest, rfl, hrest, hcount⟩ := hb
    refine ⟨rest ++ [.stopTest], rfl, ?_, by simpa using hcount⟩
    simpa [or_imp, forall_and] using hrest
  | updateFixture =>
    obtain ⟨n, rfl⟩ := hb
    exact ⟨n + 1, by rw [List.cons_append, ← List.replicate_succ']⟩

/-- What closes something completes its life. -/
theorem Begun.lifecycle {k : NodeState} {ops : List Operation} (hb : Begun k ops) :
    Lifecycle (ops ++ [k.closer]) := by
  cases k with
  | scope =>
    obtain rfl := hb
    exact .scope
  -- the life of a test has at most one stop, made or not
  | test ended =>
    obtain ⟨rest, rfl, hrest, hcount⟩ := hb
    exact .test hrest (by cases ended <;> simp_all)
  | fixture =>
    obtain ⟨n, rfl⟩ := hb
    exact .fixture n

/-- Every handle has the life that belongs to what it stands for. -/
structure Tracked (st : Standing) : Prop where
  begun : ∀ n ∈ st.nodes, Begun n.2 (callsOn n.1 st.calls)
  complete : ∀ h ∉ st.held, Lifecycle (callsOn h st.calls)
  undrawn : ∀ h, ¬h.IsBefore st.drawn → callsOn h st.calls = []

variable {st st' : Standing}

/-- The handle of an open node is held. -/
private theorem mem_held_of_mem_nodes {n : Handle × NodeState} (hn : n ∈ st.nodes) :
    n.1 ∈ st.held :=
  map_fst_nodes st ▸ List.mem_map_of_mem hn

/-- A call with one handle is no part of the life of any other. -/
private theorem callsOn_of_ne {h x : Handle} {op : Operation}
    (hcalls : st'.calls = st.calls ++ [(op, h)]) (hne : x ≠ h) :
    callsOn x st'.calls = callsOn x st.calls := by
  rw [hcalls, callsOn_snoc_of_ne (Ne.symm hne)]

/-- The new handle begins its life. -/
private theorem Tracked.opens (hs : st.Sound) (ht : st.Tracked) {k : NodeState}
    (hk : k ≠ .test true) (hnodes : st'.nodes.Perm ((st.next, k) :: st.nodes))
    (hcalls : st'.calls = st.calls ++ [(k.opener, st.next)])
    (hdrawn : st'.drawn = st.drawn + 1) : st'.Tracked := by
  -- nothing has been called with the next handle
  have hnew := ht.undrawn st.next (Handle.not_isBefore_drawn st.drawn)
  have hheld := held_perm hnodes
  rw [List.map_cons, map_fst_nodes] at hheld
  refine ⟨fun n hn => ?_, fun x hx => ?_, fun x hx => ?_⟩
  -- the new node has been opened, and the others are as they were
  · rcases List.mem_cons.1 (hnodes.subset hn) with rfl | hn
    · rw [hcalls, callsOn_snoc_self, hnew]
      exact begun_opener hk
    · have hne : n.1 ≠ st.next := (hs.drawn _ (mem_held_of_mem_nodes hn)).ne_drawn
      rw [callsOn_of_ne hcalls hne]
      exact ht.begun n hn
  -- a handle that is closed is not the new one
  · obtain ⟨hne, hx⟩ := not_or.1 (mt List.mem_cons.2 (mt (hheld.symm.subset ·) hx))
    rw [callsOn_of_ne hcalls hne]
    exact ht.complete x hx
  -- nor is one that is not drawn yet
  · have hne : x ≠ st.next := by
      rintro rfl
      exact hx ⟨st.drawn, by omega, rfl⟩
    rw [callsOn_of_ne hcalls hne]
    exact ht.undrawn x (mt (·.mono (by omega)) hx)

/-- One life goes on, and stays one that has begun. -/
private theorem Tracked.uses (hs : st.Sound) (ht : st.Tracked) {h : Handle} {k k' : NodeState}
    {op : Operation} (hop : k.Allows op k') {rest : List (Handle × NodeState)}
    (hbefore : st.nodes.Perm ((h, k) :: rest)) (hafter : st'.nodes.Perm ((h, k') :: rest))
    (hcalls : st'.calls = st.calls ++ [(op, h)]) (hle : st.drawn ≤ st'.drawn) : st'.Tracked := by
  have hheld : st'.held.Perm st.held := (held_perm hafter).trans (held_perm hbefore).symm
  have hnodup : (h :: rest.map (·.1)).Nodup := (held_perm hbefore).nodup_iff.1 hs.nodup
  have hh : (h, k) ∈ st.nodes := hbefore.symm.subset List.mem_cons_self
  have hheldh : h ∈ st.held := mem_held_of_mem_nodes hh
  refine ⟨fun n hn => ?_, fun x hx => ?_, fun x hx => ?_⟩
  · rcases List.mem_cons.1 (hafter.subset hn) with rfl | hn
    · rw [hcalls, callsOn_snoc_self]
      exact (ht.begun _ hh).snoc hop
    -- handles are held once, so the other nodes are not used
    · have hne : n.1 ≠ h := by
        rintro rfl
        exact (List.nodup_cons.1 hnodup).1 (List.mem_map_of_mem hn)
      rw [callsOn_of_ne hcalls hne]
      exact ht.begun n (hbefore.symm.subset (List.mem_cons_of_mem _ hn))
  -- a handle that is not held is not the one used
  · have hx := mt (hheld.symm.subset ·) hx
    rw [callsOn_of_ne (x := x) hcalls fun heq => hx (heq ▸ hheldh)]
    exact ht.complete x hx
  · have hx := mt (Handle.IsBefore.mono · hle) hx
    rw [callsOn_of_ne (x := x) hcalls fun heq => hx (heq ▸ hs.drawn h hheldh)]
    exact ht.undrawn x hx

/-- One life is completed, and its handle is open no more. -/
private theorem Tracked.closes (hs : st.Sound) (ht : st.Tracked) {h : Handle} {k : NodeState}
    (hbefore : st.nodes.Perm ((h, k) :: st'.nodes))
    (hcalls : st'.calls = st.calls ++ [(k.closer, h)]) (hdrawn : st'.drawn = st.drawn) :
    st'.Tracked := by
  have hheld := held_perm hbefore
  rw [List.map_cons, map_fst_nodes] at hheld
  have hclosed : h ∉ st'.held := (List.nodup_cons.1 (hheld.nodup_iff.1 hs.nodup)).1
  have hh : (h, k) ∈ st.nodes := hbefore.symm.subset List.mem_cons_self
  refine ⟨fun n hn => ?_, fun x hx => ?_, fun x hx => ?_⟩
  -- what is still open is not the node that is closed
  · rw [callsOn_of_ne hcalls fun heq => hclosed (heq ▸ mem_held_of_mem_nodes hn)]
    exact ht.begun n (hbefore.symm.subset (List.mem_cons_of_mem _ hn))
  -- the node that is closed has a complete life now, the others have the life they had
  · by_cases hxh : x = h
    · subst hxh
      rw [hcalls, callsOn_snoc_self]
      exact (ht.begun _ hh).lifecycle
    · rw [callsOn_of_ne hcalls hxh]
      exact ht.complete x fun hmem => (List.mem_cons.1 (hheld.subset hmem)).elim hxh hx
  · rw [hdrawn] at hx
    rw [callsOn_of_ne (x := x) hcalls fun heq => hx (heq ▸ hs.drawn h (mem_held_of_mem_nodes hh))]
    exact ht.undrawn x hx

/-- Whatever a move does, lives go on as they should. -/
theorem Effect.tracked (he : Effect st st') (hs : st.Sound) (ht : st.Tracked) : st'.Tracked := by
  cases he with
  -- the invariant speaks of nodes, calls and handles only, and these are the same
  | nothing hnodes hcalls hdrawn =>
    have hheld : st'.held = st.held := by rw [← map_fst_nodes, ← map_fst_nodes, hnodes]
    obtain ⟨hbegun, hcomplete, hundrawn⟩ := ht
    rw [← hnodes, ← hcalls] at hbegun
    rw [← hheld, ← hcalls] at hcomplete
    rw [← hdrawn, ← hcalls] at hundrawn
    exact ⟨hbegun, hcomplete, hundrawn⟩
  | opens k hk hnodes hcalls hdrawn => exact ht.opens hs hk hnodes hcalls hdrawn
  | uses h hop rest hbefore hafter hcalls hle => exact ht.uses hs hop hbefore hafter hcalls hle
  | closes h k hbefore hcalls hdrawn => exact ht.closes hs hbefore hcalls hdrawn

/-- At the start nothing has been called. -/
theorem tracked_initial (b : Backend) : (initial b).Tracked :=
  ⟨nofun, fun _ _ => .unused, fun _ _ => rfl⟩

/-- So any number of moves keep lives as they should be. -/
theorem Moves.tracked (hm : Moves st st') (hs : st.Sound) (ht : st.Tracked) : st'.Tracked := by
  induction hm with
  | refl => exact ht
  | tail hmoves hmove ih => exact hmove.effect.tracked (Moves.sound hmoves hs) ih

/-- Nothing is called any more with a handle that is not open. -/
theorem Effect.callsOn_eq (he : Effect st st') {h : Handle} (hh : h ∉ st.held)
    (hdrawn : h.IsBefore st.drawn) : callsOn h st'.calls = callsOn h st.calls ∧ h ∉ st'.held := by
  -- in each case the call is with a handle that is open, or with one that is drawn just now
  cases he with
  | nothing hnodes hcalls hdrawn' =>
    rw [hcalls, ← map_fst_nodes, hnodes, map_fst_nodes]
    exact ⟨rfl, hh⟩
  -- a new handle is not one that was drawn before
  | opens k hk hnodes hcalls hdrawn' =>
    have hne : st.next ≠ h := hdrawn.ne_drawn.symm
    have hheld := held_perm hnodes
    rw [List.map_cons, map_fst_nodes] at hheld
    rw [hcalls, callsOn_snoc_of_ne hne]
    exact ⟨rfl, fun hmem => (List.mem_cons.1 (hheld.subset hmem)).elim (hne ·.symm) hh⟩
  -- what is used is held, and this handle is not
  | @uses x k k' op hop rest hbefore hafter hcalls hle =>
    have hheld : st'.held.Perm st.held := (held_perm hafter).trans (held_perm hbefore).symm
    have hx : x ∈ st.held := (held_perm hbefore).symm.subset List.mem_cons_self
    have hne : x ≠ h := fun heq => hh (heq ▸ hx)
    rw [hcalls, callsOn_snoc_of_ne hne]
    exact ⟨rfl, fun hmem => hh (hheld.subset hmem)⟩
  -- what is closed was held
  | closes x k hbefore hcalls hdrawn' =>
    have hheld := held_perm hbefore
    rw [List.map_cons, map_fst_nodes] at hheld
    have hne : x ≠ h := fun heq => hh (heq ▸ hheld.symm.subset List.mem_cons_self)
    rw [hcalls, callsOn_snoc_of_ne hne]
    exact ⟨rfl, fun hmem => hh (hheld.symm.subset (List.mem_cons_of_mem _ hmem))⟩

/-- Moves can only draw more handles. -/
theorem Effect.drawn_le (he : Effect st st') : st.drawn ≤ st'.drawn := by
  cases he <;> omega

/-- So can any number of them. -/
theorem Moves.drawn_le (hm : Moves st st') : st.drawn ≤ st'.drawn := by
  induction hm with
  | refl => exact Nat.le_refl _
  | tail _ hmove ih => exact Nat.le_trans ih hmove.effect.drawn_le

/-- A handle that is not held any more is not called again. -/
theorem Moves.callsOn_eq (hm : Moves st st') {h : Handle} (hh : h ∉ st.held)
    (hdrawn : h.IsBefore st.drawn) : callsOn h st'.calls = callsOn h st.calls := by
  -- carried along: the handle has been drawn and is not open, so that no move can use it again
  suffices hall : callsOn h st'.calls = callsOn h st.calls ∧ h ∉ st'.held
      ∧ h.IsBefore st'.drawn from hall.1
  induction hm with
  | refl => exact ⟨rfl, hh, hdrawn⟩
  | tail _ hmove ih =>
    obtain ⟨hcalls, hheld, hbefore⟩ := ih
    obtain ⟨hcalls', hheld'⟩ := hmove.effect.callsOn_eq hheld hbefore
    exact ⟨hcalls'.trans hcalls, hheld', hbefore.mono hmove.effect.drawn_le⟩

end Standing

/-- The replay of any log into a report between replays succeeds, every handle that is drawn in it
lives a complete life, nothing stays open, and the session keeps its log. -/
theorem Machine.lifecycle_of_replay {b : Backend} (hb : b.BetweenReplays)
    (isAfterAll : String → Bool) (synchronised : Bool) (contextId : String) (log : List Message) :
    ∃ p calls, Runs (Backend.machine isAfterAll synchronised).replay
        ⟨{ contextId := contextId, log := log }, b⟩ () p
      ∧ p.world.calls = b.calls ++ calls
      ∧ (∀ h, Lifecycle (callsOn h calls))
      ∧ p.session.isSettled = true
      ∧ p.session.log = log := by
  have hheld := Standing.held_settle ((Standing.initial b).dispatchAll isAfterAll log)
  refine ⟨_, _, runs_replay hb.idle isAfterAll synchronised contextId log, rfl, ?_, ?_, rfl⟩
  · intro h
    -- nothing is open in the end, so every life is complete
    have htracked := Standing.Moves.tracked (Standing.moves_replay isAfterAll log (.initial b))
      (Standing.sound_initial b) (Standing.tracked_initial b)
    exact htracked.complete h (by simp [Standing.replay, hheld])
  · simp only [Standing.held, List.append_eq_nil_iff, List.map_eq_nil_iff] at hheld
    obtain ⟨hscopes, hcurrent, hrunning⟩ := hheld
    have hcurrent := Option.toList_eq_nil_iff.1 hcurrent
    simp [Session.isSettled, Standing.pass, Standing.session, Standing.unended,
      Standing.stepCount, Standing.replay, hscopes, hcurrent, hrunning]

/-- A log in which nothing fits together, in a report that has just been made. -/
theorem Machine.lifecycle_of_unbalanced_log :
    (Backend.inMemory {}).BetweenReplays ∧ ∃ p calls,
      Runs (Backend.machine (· = "teardown") true).replay
        ⟨{ contextId := "main"
           log := [.suiteEnd, .testStart "a" 1, .suiteEnd, .hookStart "teardown" .after 3,
             .testStart "b" 4, .entry (.stepStart "s" 5)] },
          .inMemory {}⟩ () p
      ∧ p.world.calls = [] ++ calls
      ∧ (∀ h, Lifecycle (callsOn h calls))
      ∧ p.session.isSettled = true
      ∧ p.session.log.length = 6 := by
  have hb := Backend.BetweenReplays.fresh {}
  obtain ⟨p, calls, hruns, hcalls, hlife, hsettled, hlog⟩ :=
    lifecycle_of_replay hb (· = "teardown") true "main"
      [.suiteEnd, .testStart "a" 1, .suiteEnd, .hookStart "teardown" .after 3,
        .testStart "b" 4, .entry (.stepStart "s" 5)]
  exact ⟨hb, p, calls, hruns, hcalls, hlife, hsettled, congrArg List.length hlog⟩

end Chronicle
