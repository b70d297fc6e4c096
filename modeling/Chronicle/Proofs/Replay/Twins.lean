import Chronicle.Proofs.Replay.LastMessage

/-!
# Replays side by side

Two replays that read the same messages need not start the same fixtures: a scope may be open in one
of them only. `Standing.Twins` relates the fixtures that both of them have. It is kept by every
message (`Twins.step`) and so by a log (`Twins.steps`), as long as all that the second replay has in
addition is a test that is open, and in the end related fixtures have the same record but for the
handle (`Twins.stopped`). The handles differ, since they are drawn one after another.
-/
namespace Chronicle

/-- A message starts a hook, ends one, or has to do with none. -/
theorem Message.cases_of_hook (m : Message) :
    (∃ name kind start, m = .hookStart name kind start) ∨ (∃ e, m = .hookEnd e)
      ∨ m.kind ≠ .hookStart ∧ m.kind ≠ .hookEnd := by
  cases m with
  | hookStart name kind start => exact .inl ⟨name, kind, start, rfl⟩
  | hookEnd e => exact .inr (.inl ⟨e, rfl⟩)
  | suiteStart | suiteEnd | testStart | testInfo | testEnd =>
    exact .inr (.inr (by simp [Message.kind]))
  | entry e => exact .inr (.inr (by cases e <;> simp [Message.kind, TestEntry.kind]))

/-! ### Scopes and the open test -/

/-- How many scopes are open, and whether a test is. -/
structure Extent where
  scopes : Nat
  isTesting : Bool

namespace Extent

/-- What is open once the open test has been written, if there is one. -/
def finalize (x : Extent) : Extent where
  scopes := if x.isTesting then x.scopes - 1 else x.scopes
  isTesting := false

/-- What is open after a message. -/
def after (isAfterAll : String → Bool) (x : Extent) : Message → Extent
  | .suiteStart .. => ⟨x.finalize.scopes + 1, false⟩
  | .suiteEnd => ⟨x.scopes - 1, x.isTesting⟩
  | .testStart .. => ⟨x.finalize.scopes + 1, true⟩
  | .hookStart name .. => if isAfterAll name then x.finalize else x
  | _ => x

/-- As much is open in both, or nothing in the first and at most a test with its own scope in the
second. -/
def Trails (x x' : Extent) : Prop :=
  x = x' ∨ x = ⟨0, false⟩ ∧ x'.scopes ≤ x'.isTesting.toNat

/-- Two extents that differ by an open test are the same once it is final. -/
theorem Trails.finalize {x x' : Extent} (h : x.Trails x') : x.finalize = x'.finalize := by
  rcases h with rfl | ⟨rfl, hle⟩
  · rfl
  · obtain ⟨scopes, _ | _⟩ := x'
    · have hzero : scopes = 0 := by simpa using hle
      simp [Extent.finalize, hzero]
    · have hzero : scopes - 1 = 0 := by simpa [Nat.sub_eq_zero_iff_le] using hle
      simp [Extent.finalize, hzero]

/-- Two replays stay as close, and once they have met they do not part. -/
theorem Trails.after {x x' : Extent} (h : x.Trails x') (isAfterAll : String → Bool) (m : Message) :
    (x.after isAfterAll m).Trails (x'.after isAfterAll m) := by
  have hfinalize := h.finalize
  rcases h with rfl | ⟨rfl, hle⟩
  · exact .inl rfl
  · cases m with
    | suiteStart | testStart =>
      -- the test is written with its scope, and the two have met
      simp only [Extent.after, hfinalize]
      exact .inl rfl
    -- one scope less on the left side keeps it behind
    | suiteEnd => exact .inr ⟨rfl, Nat.le_trans (Nat.sub_le _ _) hle⟩
    -- a hook after all tests finalizes too
    | hookStart name kind start =>
      simp only [Extent.after, hfinalize]
      split
      · exact .inl rfl
      · exact .inr ⟨rfl, hle⟩
    | testInfo | testEnd | hookEnd | entry => exact .inr ⟨rfl, hle⟩

end Extent

namespace Standing

variable {b : Backend} {isAfterAll : String → Bool} {st st' : Standing}

/-- How many scopes are open, and whether a test is. -/
def extent (st : Standing) : Extent :=
  ⟨st.scopes.length, st.current.isSome⟩

/-- What finalizing does to the extent depends on nothing else. -/
theorem extent_finalize (st : Standing) : st.finalize.extent = st.extent.finalize := by
  rw [finalize_eq]
  cases hc : st.current <;> simp [extent, outerScopes, Extent.finalize, hc]

private theorem extent_openScope (st : Standing) :
    st.openScope.extent = ⟨st.extent.scopes + 1, st.extent.isTesting⟩ := rfl

/-- A scope less is open, and it does not matter which. -/
private theorem extent_closeScope (st : Standing) :
    st.closeScope.extent = ⟨st.extent.scopes - 1, st.extent.isTesting⟩ := by
  cases hc : st.scopes <;> simp [closeScope, extent, hc]

/-- A test is open, and as many scopes as before. -/
private theorem extent_beginTest (name : String) (start : Int) (st : Standing) :
    (st.beginTest name start).extent = ⟨st.extent.scopes, true⟩ := by
  simp [beginTest, extent]

/-- What happens in a test changes neither the scopes nor whether one is open. -/
private theorem extent_changeTest (op : Operation) (f : OpenTest → OpenTest) (st : Standing) :
    (st.changeTest op f).extent = st.extent := by
  cases hc : st.current <;> simp [changeTest, extent, hc]

/-- An attachment opens and closes nothing. -/
private theorem extent_attach (file : Attachment) (st : Standing) :
    (st.attach file).extent = st.extent := by
  cases hc : st.current <;> simp [attach, extent, hc]

/-- A test that has stopped is still open. -/
private theorem extent_stopTest (stop duration : Option Int) (st : Standing) :
    (st.stopTest stop duration).extent = st.extent := by
  cases hc : st.current <;> simp [stopTest, extent, hc]

/-- Steps are no part of the extent. -/
private theorem extent_closeSteps (status : Status) (stop : Int) (n : Nat) (st : Standing) :
    (st.closeSteps status stop n).extent = st.extent := by
  induction n generalizing st with
  | zero => rfl
  | succ n ih => exact (ih _).trans (extent_changeTest _ _ st)

/-- A full name is no part of the extent. -/
private theorem extent_nameTest (fullName : String) (st : Standing) :
    (st.nameTest fullName).extent = st.extent := by
  simp only [nameTest]
  split
  · exact extent_changeTest _ _ st
  · rfl

/-- A test that has ended is still open. -/
private theorem extent_endTest (e : TestEnding) (st : Standing) :
    (st.endTest e).extent = st.extent := by
  simp only [endTest]
  split
  · rw [extent_stopTest, extent_changeTest, extent_closeSteps]
  · rfl

/-- Fixtures are no part of the extent. -/
private theorem extent_startFixture (kind : HookKind) (name : String) (start : Int)
    (st : Standing) :
    (st.startFixture kind name start).extent = st.extent := by
  cases hc : st.scopes <;> simp [startFixture, extent, hc]

/-- Fixtures that end are no part of the extent either. -/
private theorem extent_endHook (e : HookEnding) (st : Standing) :
    (st.endHook e).extent = st.extent := by
  cases hr : st.running <;> simp [endHook, updateFixture, stopFixture, extent, hr]

/-- Entries of a test are no part of the extent. -/
private theorem extent_applyEntry (e : TestEntry) (st : Standing) :
    (st.applyEntry e).extent = st.extent := by
  cases e with
  | stepStart name start => exact extent_changeTest _ (·.openStep name start) st
  | stepStop status stop details =>
    exact extent_changeTest _ (·.closeStep status stop details) st
  | metadata labels parameters => exact extent_changeTest _ (·.describe labels parameters) st
  | attachment file => exact extent_attach file st

/-- What is open after a message does not depend on anything but what was open before. -/
private theorem extent_step (m : Message) (st : Standing) :
    (st.step isAfterAll m).extent = st.extent.after isAfterAll m := by
  cases m with
  -- what is open before a start is finalized, and a scope opened
  | suiteStart name isFeature =>
    rw [step, extent_openScope, extent_finalize]
    rfl
  | suiteEnd => exact extent_closeScope st
  | testStart name start =>
    rw [step, extent_beginTest, extent_openScope, extent_finalize]
    rfl
  | testInfo fullName => exact extent_nameTest fullName st
  | testEnd e => exact extent_endTest e st
  -- a hook after all tests finalizes, any other leaves the extent
  | hookStart name kind start =>
    simp only [step, startHook, extent_startFixture, Extent.after]
    split
    · exact extent_finalize st
    · rfl
  | hookEnd e => exact extent_endHook e st
  | entry e => exact extent_applyEntry e st

end Standing

/-! ### Records -/

/-- The same record under another handle. -/
def FixtureResult.under (h : Handle) (r : FixtureResult) : FixtureResult :=
  { r with handle := h }

/-- A record is under its own handle already. -/
theorem FixtureResult.map_under_self {fixtures : Table FixtureResult}
    (hkeyed : ∀ e ∈ fixtures, e.2.handle = e.1) (h : Handle) :
    (fixtures.get? h).map (under h) = fixtures.get? h := by
  cases hget : fixtures.get? h with
  | none => rfl
  | some r =>
    have hhandle : r.handle = h := hkeyed _ (Table.mem_of_get? hget)
    rw [Option.map_some, under, ← hhandle]

/-- Two records that are the same but for their handles stay so if the same is done to them. -/
private theorem FixtureResult.map_under {change : FixtureResult → FixtureResult}
    (hchange : ∀ h r, change (under h r) = under h (change r)) {p q : Prop} [Decidable p]
    [Decidable q] (hpq : p ↔ q) (h : Handle) (r : Option FixtureResult) :
    ((r.map (under h)).map fun r => if q then change r else r)
      = (r.map fun r => if p then change r else r).map (under h) := by
  rw [Option.map_map, Option.map_map]
  congr 1
  funext r
  by_cases hp : p
  · simp only [Function.comp_apply, if_pos hp, if_pos (hpq.1 hp), hchange]
  · simp only [Function.comp_apply, if_neg hp, if_neg (hp ∘ hpq.2)]

/-! ### Fixtures that start and end -/

namespace Standing

variable {isAfterAll : String → Bool} {st : Standing} {x : Handle}

/-- Where a scope is open, a new fixture runs before the others. -/
private theorem running_startFixture_cons {s : Scope} {rest : List Scope}
    (hc : st.scopes = s :: rest) (kind : HookKind) (name : String) (start : Int) :
    (st.startFixture kind name start).running = st.next :: st.running := by
  simp only [startFixture, hc]

/-- The handle of a started fixture has been drawn. -/
private theorem isBefore_startFixture {s : Scope} {rest : List Scope} (hc : st.scopes = s :: rest)
    (kind : HookKind) (name : String) (start : Int) :
    st.next.IsBefore (st.startFixture kind name start).drawn := by
  simp only [startFixture, hc]
  exact ⟨st.drawn, Nat.lt_succ_self _, rfl⟩

/-- Where a scope is open, the new fixture is found under its handle. -/
private theorem get?_startFixture_next {s : Scope} {rest : List Scope} (hc : st.scopes = s :: rest)
    (kind : HookKind) (name : String) (start : Int) :
    (st.startFixture kind name start).fixtures.get? st.next
      = some { handle := st.next, name := name, kind := kind, start := start } := by
  simp only [startFixture, hc, Table.insert, Table.get?, List.lookup_cons_self]

/-- The fixtures that were there before are found as before. -/
private theorem get?_startFixture_of_isBefore {h : Handle} (hh : h.IsBefore st.drawn)
    {kind : HookKind} {name : String} {start : Int} :
    (st.startFixture kind name start).fixtures.get? h = st.fixtures.get? h := by
  cases hc : st.scopes with
  | nil => simp only [startFixture, hc]
  | cons s rest =>
    have hne : h ≠ st.next := hh.ne_drawn
    simp only [startFixture, hc, Table.get?_insert_of_ne hne]

/-- The handle that is drawn next belongs to no fixture that runs. -/
private theorem Sound.next_not_mem_running (hs : st.Sound) : st.next ∉ st.running := fun hmem =>
  Handle.not_isBefore_drawn st.drawn (hs.drawn_running hmem)

/-- Without an open scope no fixture starts. -/
theorem startFixture_of_scopes_nil (hc : st.scopes = []) (kind : HookKind) (name : String)
    (start : Int) : st.startFixture kind name start = st := by
  simp only [startFixture, hc]

/-- The end of a hook takes the fixture that was started last from those that run. -/
theorem running_endHook (e : HookEnding) (st : Standing) :
    (st.endHook e).running = st.running.tail := by
  cases hr : st.running <;> simp [endHook, updateFixture, stopFixture, hr]

/-- The end of a hook does not start a fixture. -/
theorem running_endHook_ne (e : HookEnding) (st : Standing) (x : Handle) :
    (st.endHook e).running ≠ x :: st.running := by
  intro hx
  have hlength := congrArg List.length ((running_endHook e st).symm.trans hx)
  simp only [List.length_tail, List.length_cons] at hlength
  omega

/-- The start of a hook adds one fixture to those that run, or none. -/
theorem running_startHook (isAfterAll : String → Bool) (name : String) (kind : HookKind)
    (start : Int) (st : Standing) :
    (st.startHook isAfterAll name kind start).running = st.running
      ∨ (st.startHook isAfterAll name kind start).running = st.next :: st.running := by
  -- the finalization leaves the running fixtures and the next handle
  have hstart : ∀ st₁ : Standing, st₁.running = st.running → st₁.next = st.next →
      (st₁.startFixture kind name start).running = st.running
        ∨ (st₁.startFixture kind name start).running = st.next :: st.running := by
    intro st₁ hrunning hnext
    cases hc : st₁.scopes with
    | nil => exact .inl (by rw [startFixture_of_scopes_nil hc, hrunning])
    | cons s rest => exact .inr (by rw [running_startFixture_cons hc, hrunning, hnext])
  simp only [startHook]
  split
  · exact hstart _ (running_finalize st) (congrArg Handle.drawn (drawn_finalize st))
  · exact hstart st rfl rfl

/-- The end of a hook changes the record of the fixture that was started last among those that run.
-/
theorem get?_fixtures_endHook (e : HookEnding) (st : Standing) (h : Handle) :
    (st.endHook e).fixtures.get? h = (st.fixtures.get? h).map fun r =>
      if st.running.head? = some h then (r.ended e).stopped (some e.stop) e.duration else r := by
  cases hr : st.running with
  | nil => simp [endHook_of_running_nil hr]
  | cons x rest =>
    have hfixtures : (st.endHook e).fixtures
        = st.fixtures.change x fun r => (r.ended e).stopped (some e.stop) e.duration := by
      simp [endHook, updateFixture, stopFixture, hr, Table.change_change]
    simp only [hfixtures, Table.get?_change, List.head?_cons, Option.some.injEq, eq_comm]

/-- Each fixture that runs is stopped once, and no other one. -/
private theorem get?_foldl_stopped {running : List Handle} (hnodup : running.Nodup)
    (fixtures : Table FixtureResult) (h : Handle) :
    (running.foldl (fun fixtures h => fixtures.change h (·.stopped none none)) fixtures).get? h
      = (fixtures.get? h).map fun r => if h ∈ running then r.stopped none none else r := by
  induction running generalizing fixtures with
  | nil => simp
  | cons x rest ih =>
    obtain ⟨hx, hnodup⟩ := List.nodup_cons.1 hnodup
    rw [List.foldl_cons, ih hnodup, Table.get?_change, Option.map_map]
    congr 1
    funext r
    by_cases heq : h = x
    · -- what has been stopped is not stopped again
      simp [heq, hx]
    · simp [heq]

/-- In the end all fixtures that run are stopped, and no other ones. -/
private theorem get?_stoppedFixtures (hs : st.Sound) (h : Handle) :
    st.stoppedFixtures.get? h = (st.fixtures.get? h).map fun r =>
      if h ∈ st.running then r.stopped none none else r :=
  get?_foldl_stopped hs.nodup_running st.fixtures h

/-- The fixtures of a whole replay are those after its messages, with those stopped that still
run. -/
theorem fixtures_replay (isAfterAll : String → Bool) (log : List Message) (st : Standing) :
    (st.replay isAfterAll log).fixtures = (st.steps isAfterAll log).stoppedFixtures := by
  rcases dispatchAll_eq isAfterAll log st with heq | heq
  · rw [replay, heq, settle_eq]
  · rw [replay, heq, settle_finalize, settle_eq]

/-- The message at a place in a log starts a fixture. -/
def Starts (isAfterAll : String → Bool) (log : List Message) (st : Standing) (k : Nat)
    (h : Handle) : Prop :=
  (st.steps isAfterAll (log.take (k + 1))).running
    = h :: (st.steps isAfterAll (log.take k)).running

/-- Whether a message of the first part starts a fixture does not depend on the second part. -/
theorem starts_append_left {log log' : List Message} {k : Nat} (hk : k < log.length) :
    st.Starts isAfterAll (log ++ log') k x ↔ st.Starts isAfterAll log k x := by
  rw [Starts, Starts, List.take_append_of_le_length hk, List.take_append_of_le_length hk.le]

/-- A message of the second part starts a fixture from where the first part has led. -/
theorem starts_append_right {log log' : List Message} {k : Nat} :
    st.Starts isAfterAll (log ++ log') (log.length + k) x
      ↔ (st.steps isAfterAll log).Starts isAfterAll log' k x := by
  rw [Starts, Starts, Nat.add_assoc, List.take_length_add_append, List.take_length_add_append,
    steps_append, steps_append]

/-- A message that starts nothing leaves those before it and those after it. -/
theorem starts_cases {log log' : List Message} {m : Message} {k : Nat}
    (hm : ((st.steps isAfterAll log).step isAfterAll m).running
      ≠ x :: (st.steps isAfterAll log).running)
    (hx : st.Starts isAfterAll (log ++ m :: log') k x) :
    k < log.length ∧ st.Starts isAfterAll log k x
      ∨ ∃ j, k = log.length + (j + 1)
        ∧ ((st.steps isAfterAll log).step isAfterAll m).Starts isAfterAll log' j x := by
  by_cases hk : k < log.length
  · exact .inl ⟨hk, (starts_append_left hk).1 hx⟩
  obtain ⟨k, rfl⟩ := Nat.exists_eq_add_of_le (Nat.le_of_not_lt hk)
  rw [starts_append_right] at hx
  cases k with
  | zero => exact absurd hx hm
  | succ k => exact .inr ⟨k, rfl, hx⟩

/-- An empty log starts nothing. -/
private theorem not_starts_nil {k : Nat} : ¬st.Starts isAfterAll [] k x := by
  intro hs
  rw [Starts, List.take_nil, List.take_nil] at hs
  exact absurd hs (List.cons_ne_self x _).symm

/-- The only fixture that a message can start is one with a new handle. -/
private theorem mem_running_step {m : Message} (hx : x ∈ (st.step isAfterAll m).running) :
    x ∈ st.running ∨ x = st.next := by
  obtain ⟨name, kind, start, rfl⟩ | ⟨e, rfl⟩ | ⟨hstart, hend⟩ := m.cases_of_hook
  · rcases running_startHook isAfterAll name kind start st with heq | heq
    · exact .inl (heq ▸ hx)
    · rw [step, heq] at hx
      exact (List.mem_cons.1 hx).symm
  · rw [step, running_endHook] at hx
    exact .inl (List.mem_of_mem_tail hx)
  · have hs : SameHooks (.inMemory {}) st (st.step isAfterAll m) := sameHooks_step hstart hend st
    exact .inl (hs.running ▸ hx)

/-- No message starts a fixture again. -/
theorem mem_running_steps {log : List Message} (hx : x ∈ (st.steps isAfterAll log).running) :
    x ∈ st.running ∨ ¬x.IsBefore st.drawn := by
  induction log generalizing st with
  | nil => exact .inl hx
  | cons m rest ih =>
    rcases ih hx with hx | hx
    · rcases mem_running_step hx with hx | rfl
      · exact .inl hx
      · exact .inr (Handle.not_isBefore_drawn st.drawn)
    · exact .inr fun hbefore => hx (hbefore.mono (moves_step isAfterAll m st).drawn_le)

/-- A fixture that is started while messages are read has a handle that is drawn meanwhile. -/
theorem Starts.isBefore {log : List Message} {k : Nat} (hs : st.Sound)
    (hx : st.Starts isAfterAll log k x) :
    ¬x.IsBefore st.drawn ∧ x.IsBefore (st.steps isAfterAll log).drawn := by
  induction log generalizing st k with
  | nil => exact absurd hx not_starts_nil
  | cons m rest ih =>
    have hm := moves_step isAfterAll m st
    have hsound : (st.step isAfterAll m).Sound := hm.sound hs
    cases k with
    | zero =>
      have hrunning : (st.step isAfterAll m).running = x :: st.running := hx
      have hmem : x ∈ (st.step isAfterAll m).running := hrunning ▸ List.mem_cons_self
      have hnodup := hsound.nodup_running
      rw [hrunning, List.nodup_cons] at hnodup
      -- it did not run before, so it has the handle that was drawn next
      obtain rfl := (mem_running_step hmem).resolve_left hnodup.1
      exact ⟨Handle.not_isBefore_drawn st.drawn,
        (hsound.drawn_running hmem).mono (moves_steps isAfterAll rest _).drawn_le⟩
    -- started by a later message, so its handle is drawn even later
    | succ k =>
      obtain ⟨hnew, hdrawn⟩ := ih hsound hx
      exact ⟨fun hbefore => hnew (hbefore.mono hm.drawn_le), hdrawn⟩

/-! ### Fixtures that two replays have -/

/-- No related handle is in the lists. -/
def Apart (r : Handle → Handle → Prop) (hs hs' : List Handle) : Prop :=
  ∀ h h', r h h' → h ∉ hs ∧ h' ∉ hs'

/-- Related handles are on top of two stacks, in the same order, and further down there are none. -/
inductive Aligned (r : Handle → Handle → Prop) : List Handle → List Handle → Prop
  | apart {hs hs' : List Handle} (hapart : Apart r hs hs') : Aligned r hs hs'
  | pair {h h' : Handle} {hs hs' : List Handle} (hr : r h h') (hrest : Aligned r hs hs') :
    Aligned r (h :: hs) (h' :: hs')

/-- A relation is extended by handles that have not been among the first `n`. -/
structure Extends (n : Nat) (r r' : Handle → Handle → Prop) : Prop where
  old : ∀ h h', r h h' → r' h h'
  new : ∀ h h', r' h h' → r h h' ∨ ¬h.IsBefore n

/-- A relation that stays as it is has nothing new below the bound. -/
theorem Extends.refl (n : Nat) (r : Handle → Handle → Prop) : Extends n r r :=
  ⟨fun _ _ => id, fun _ _ => .inl⟩

/-- What is new in two steps lies above the first bound. -/
theorem Extends.trans {n n' : Nat} {r r' r'' : Handle → Handle → Prop} (hle : n ≤ n')
    (h : Extends n r r') (h' : Extends n' r' r'') : Extends n r r'' where
  old x x' hx := h'.old x x' (h.old x x' hx)
  new x x' hx := by
    rcases h'.new x x' hx with hx | hx
    · exact h.new x x' hx
    · exact .inr fun hbefore => hx (hbefore.mono hle)

section Relations

variable {r r' : Handle → Handle → Prop} {h h' : Handle} {hs hs' : List Handle}

/-- Each handle is related to one other handle at most, in both directions. -/
def OneToOne (r : Handle → Handle → Prop) : Prop :=
  ∀ {h h' x x'}, r h h' → r x x' → (h = x ↔ h' = x')

/-- Related fixtures run in both replays or in neither. -/
theorem Aligned.mem_iff (ha : Aligned r hs hs') (hone : OneToOne r) (hr : r h h') :
    h ∈ hs ↔ h' ∈ hs' := by
  induction ha with
  | apart hapart => exact iff_of_false (hapart h h' hr).1 (hapart h h' hr).2
  | pair hx _ ih => rw [List.mem_cons, List.mem_cons, hone hr hx, ih]

/-- Related fixtures were started last in both replays or in neither. -/
private theorem Aligned.head?_iff (ha : Aligned r hs hs') (hone : OneToOne r) (hr : r h h') :
    hs.head? = some h ↔ hs'.head? = some h' := by
  cases ha with
  | apart hapart =>
    obtain ⟨hmem, hmem'⟩ := hapart h h' hr
    exact iff_of_false (fun heq => hmem (List.mem_of_mem_head? heq))
      (fun heq => hmem' (List.mem_of_mem_head? heq))
  | pair hx _ =>
    rw [List.head?_cons, List.head?_cons, Option.some.injEq, Option.some.injEq]
    exact hone hx hr

/-- What is apart stays so when a fixture ends in both replays. -/
theorem Apart.tail (ha : Apart r hs hs') : Apart r hs.tail hs'.tail := fun h h' hr =>
  ⟨fun hmem => (ha h h' hr).1 (List.mem_of_mem_tail hmem),
    fun hmem => (ha h h' hr).2 (List.mem_of_mem_tail hmem)⟩

/-- What is aligned stays so when a fixture ends in both replays. -/
theorem Aligned.tail (ha : Aligned r hs hs') : Aligned r hs.tail hs'.tail := by
  cases ha with
  | apart hapart => exact .apart hapart.tail
  | pair _ hrest => exact hrest

/-- Stacks stay aligned when handles that are not in them are related. -/
theorem Aligned.mono (ha : Aligned r hs hs') (hold : ∀ h h', r h h' → r' h h')
    (hnew : ∀ h h', r' h h' → r h h' ∨ h ∉ hs ∧ h' ∉ hs') : Aligned r' hs hs' := by
  induction ha with
  | apart hapart => exact .apart fun h h' hr => (hnew h h' hr).elim (hapart h h') id
  | pair hx _ ih =>
    refine .pair (hold _ _ hx) (ih fun h h' hr => ?_)
    rcases hnew h h' hr with hr | ⟨hmem, hmem'⟩
    · exact .inl hr
    · exact .inr ⟨fun hin => hmem (List.mem_cons_of_mem _ hin),
        fun hin => hmem' (List.mem_cons_of_mem _ hin)⟩

end Relations

/-- The relation with one more pair. -/
def Adding (y y' : Handle) (r : Handle → Handle → Prop) (h h' : Handle) : Prop :=
  r h h' ∨ h = y ∧ h' = y'

/-- Two replays have the fixtures that are related, with the same records. In both of them these run
above all others, in the same order. A hook may get a fixture in the second replay only, as long as
none of them runs. -/
structure Twins (r : Handle → Handle → Prop) (st st' : Standing) : Prop where
  sound : st.Sound
  sound' : st'.Sound
  drawn : ∀ h h', r h h' → h.IsBefore st.drawn ∧ h'.IsBefore st'.drawn
  oneToOne : OneToOne r
  records : ∀ h h', r h h' → st'.fixtures.get? h' = (st.fixtures.get? h).map (·.under h')
  aligned : Aligned r st.running st'.running
  trails : st.extent.Trails st'.extent
  apart : st.extent ≠ st'.extent → Apart r st.running st'.running

namespace Twins

variable {r : Handle → Handle → Prop} {st₁ st₁' : Standing}

/-- Two replays stay together when nothing happens to the records of the fixtures that both have. -/
theorem congr (h : Twins r st st') (hm : Moves st st₁) (hm' : Moves st' st₁')
    (hrecords : ∀ x x', r x x' → st₁.fixtures.get? x = st.fixtures.get? x
      ∧ st₁'.fixtures.get? x' = st'.fixtures.get? x')
    (haligned : Aligned r st₁.running st₁'.running) (htrails : st₁.extent.Trails st₁'.extent)
    (hapart : st₁.extent ≠ st₁'.extent → Apart r st₁.running st₁'.running) :
    Twins r st₁ st₁' where
  sound := hm.sound h.sound
  sound' := hm'.sound h.sound'
  -- handles that have been drawn remain so
  drawn x x' hr :=
    ⟨(h.drawn x x' hr).1.mono hm.drawn_le, (h.drawn x x' hr).2.mono hm'.drawn_le⟩
  oneToOne := h.oneToOne
  records x x' hr := by
    obtain ⟨hget, hget'⟩ := hrecords x x' hr
    rw [hget, hget']
    exact h.records x x' hr
  aligned := haligned
  trails := htrails
  apart := hapart

/-- Whatever does not concern fixtures keeps two replays together. -/
theorem same (h : Twins r st st') (hm : Moves st st₁) (hm' : Moves st' st₁')
    (hs : SameHooks (.inMemory {}) st st₁) (hs' : SameHooks (.inMemory {}) st' st₁')
    (htrails : st₁.extent.Trails st₁'.extent)
    (hapart : st₁.extent ≠ st₁'.extent → Apart r st.running st'.running) : Twins r st₁ st₁' := by
  apply h.congr hm hm' _ _ htrails
  · rw [hs.running, hs'.running]
    exact hapart
  · intro x x' _
    rw [hs.fixtures, hs'.fixtures]
    exact ⟨rfl, rfl⟩
  · rw [hs.running, hs'.running]
    exact h.aligned

/-- A test that is made final in both replays changes no fixture. -/
theorem finalize (h : Twins r st st') : Twins r st.finalize st'.finalize := by
  have heq : st.finalize.extent = st'.finalize.extent := by
    rw [extent_finalize, extent_finalize, h.trails.finalize]
  exact h.same (moves_finalize st) (moves_finalize st') (sameHooks_finalize st)
    (sameHooks_finalize st') (.inl heq) fun hne => absurd heq hne

/-- A hook may get a fixture in the second replay only. Nothing is related to that fixture. -/
private theorem startFixture_right (h : Twins r st st') (hne : st.extent ≠ st'.extent)
    (kind : HookKind) (name : String) (start : Int) :
    Twins r st (st'.startFixture kind name start) := by
  have hm : Moves st' (st'.startFixture kind name start) :=
    .single (.startFixture st' kind name start)
  -- the new fixture is none of those that both replays have
  have hapart : Apart r st.running (st'.startFixture kind name start).running := by
    intro x x' hr
    obtain ⟨hmem, hmem'⟩ := h.apart hne x x' hr
    refine ⟨hmem, ?_⟩
    cases hc : st'.scopes with
    | nil =>
      rw [startFixture_of_scopes_nil hc]
      exact hmem'
    | cons s rest =>
      rw [running_startFixture_cons hc, List.mem_cons, not_or]
      exact ⟨(h.drawn x x' hr).2.ne_drawn, hmem'⟩
  apply h.congr .refl hm _ (.apart hapart) _ fun _ => hapart
  -- the record of a fixture that both have is not the new one
  · intro x x' hr
    exact ⟨rfl, get?_startFixture_of_isBefore (h.drawn x x' hr).2⟩
  · rw [extent_startFixture]
    exact h.trails

/-- If a hook gets a fixture in both replays, the two fixtures are related from then on. -/
private theorem startFixture_both (h : Twins r st st') (heq : st.extent = st'.extent) {s s' : Scope}
    {rest rest' : List Scope} (hc : st.scopes = s :: rest) (hc' : st'.scopes = s' :: rest')
    (kind : HookKind) (name : String) (start : Int) :
    Twins (Adding st.next st'.next r) (st.startFixture kind name start)
      (st'.startFixture kind name start) := by
  have hm : Moves st (st.startFixture kind name start) := .single (.startFixture st kind name start)
  have hm' : Moves st' (st'.startFixture kind name start) :=
    .single (.startFixture st' kind name start)
  have hextent : (st.startFixture kind name start).extent
      = (st'.startFixture kind name start).extent := by
    rw [extent_startFixture, extent_startFixture, heq]
  refine
    { sound := hm.sound h.sound
      sound' := hm'.sound h.sound'
      drawn := ?_
      oneToOne := ?_
      records := ?_
      aligned := ?_
      trails := .inl hextent
      apart := fun hne => absurd hextent hne }
  -- the older fixtures have handles below the new ones
  · rintro x x' (hr | ⟨rfl, rfl⟩)
    · exact ⟨(h.drawn x x' hr).1.mono hm.drawn_le, (h.drawn x x' hr).2.mono hm'.drawn_le⟩
    · exact ⟨isBefore_startFixture hc kind name start, isBefore_startFixture hc' kind name start⟩
  · rintro x x' y y' (hx | ⟨rfl, rfl⟩) (hy | ⟨rfl, rfl⟩)
    · exact h.oneToOne hx hy
    -- what has been related so far has been drawn before
    · exact iff_of_false (h.drawn x x' hx).1.ne_drawn (h.drawn x x' hx).2.ne_drawn
    · exact iff_of_false (h.drawn y y' hy).1.ne_drawn.symm (h.drawn y y' hy).2.ne_drawn.symm
    · exact iff_of_true rfl rfl
  · rintro x x' (hr | ⟨rfl, rfl⟩)
    · rw [get?_startFixture_of_isBefore (h.drawn x x' hr).1,
        get?_startFixture_of_isBefore (h.drawn x x' hr).2]
      exact h.records x x' hr
    -- the two new records differ in their handle only
    · rw [get?_startFixture_next hc, get?_startFixture_next hc']
      rfl
  -- both stacks get their new fixture on top
  · rw [running_startFixture_cons hc, running_startFixture_cons hc']
    refine .pair (.inr ⟨rfl, rfl⟩) (h.aligned.mono (fun _ _ => .inl) fun x x' hr => ?_)
    rcases hr with hr | ⟨rfl, rfl⟩
    · exact .inl hr
    · exact .inr ⟨h.sound.next_not_mem_running, h.sound'.next_not_mem_running⟩

/-- A hook that gets a fixture in the first replay gets one in the second. -/
theorem startFixture (h : Twins r st st') (kind : HookKind) (name : String) (start : Int) :
    ∃ r', Twins r' (st.startFixture kind name start) (st'.startFixture kind name start)
      ∧ Extends st.drawn r r'
      ∧ ∀ x, (st.startFixture kind name start).running = x :: st.running →
        ∃ x', (st'.startFixture kind name start).running = x' :: st'.running ∧ r' x x' := by
  cases hc : st.scopes with
  | nil =>
    rw [startFixture_of_scopes_nil hc]
    refine ⟨r, ?_, .refl _ r, fun x hx => absurd hx (List.cons_ne_self x _).symm⟩
    by_cases hne : st.extent = st'.extent
    · -- both decline the hook
      have hc' : st'.scopes = [] := by simpa [extent, hc, eq_comm] using congrArg (·.scopes) hne
      rw [startFixture_of_scopes_nil hc']
      exact h
    · exact h.startFixture_right hne kind name start
  | cons s rest =>
    -- where the first replay has a scope, the two have met
    have heq : st.extent = st'.extent := by
      refine h.trails.resolve_right fun hzero => ?_
      simp [extent, hc] at hzero
    cases hc' : st'.scopes with
    | nil => simp [extent, hc, hc'] at heq
    | cons s' rest' =>
      refine ⟨_, h.startFixture_both heq hc hc' kind name start, ⟨fun _ _ => .inl, ?_⟩, ?_⟩
      · rintro x x' (hr | ⟨rfl, rfl⟩)
        · exact .inl hr
        · exact .inr (Handle.not_isBefore_drawn st.drawn)
      · intro x hx
        rw [running_startFixture_cons hc, List.cons.injEq] at hx
        exact ⟨st'.next, running_startFixture_cons hc' kind name start, .inr ⟨hx.1.symm, rfl⟩⟩

/-- The fixture that ends is one that both replays have, or in neither replay it is one. -/
theorem endHook (h : Twins r st st') (e : HookEnding) : Twins r (st.endHook e) (st'.endHook e) where
  sound := (moves_step (fun _ => false) (.hookEnd e) st).sound h.sound
  sound' := (moves_step (fun _ => false) (.hookEnd e) st').sound h.sound'
  -- no handle is drawn
  drawn x x' hr := by
    have hm := moves_step (fun _ => false) (.hookEnd e)
    exact ⟨(h.drawn x x' hr).1.mono (hm st).drawn_le, (h.drawn x x' hr).2.mono (hm st').drawn_le⟩
  oneToOne := h.oneToOne
  records x x' hr := by
    rw [get?_fixtures_endHook, get?_fixtures_endHook, h.records x x' hr]
    -- either both replays end the related fixtures, or both end others
    exact FixtureResult.map_under (fun _ _ => rfl) (h.aligned.head?_iff h.oneToOne hr) x' _
  aligned := by
    rw [running_endHook, running_endHook]
    exact h.aligned.tail
  trails := by
    rw [extent_endHook, extent_endHook]
    exact h.trails
  apart := by
    rw [extent_endHook, extent_endHook, running_endHook, running_endHook]
    exact fun hne => (h.apart hne).tail

/-- The end of a hook in the first replay only: none of the fixtures that both have runs. -/
theorem endHook_left (h : Twins r st st') (hidle : ∀ x x', r x x' → x ∉ st.running)
    (e : HookEnding) : Twins r (st.endHook e) st' := by
  have hm : Moves st (st.endHook e) := moves_step (fun _ => false) (.hookEnd e) st
  -- what both replays have runs in neither
  have hapart : Apart r (st.endHook e).running st'.running := by
    intro x x' hr
    rw [running_endHook]
    exact ⟨fun hmem => hidle x x' hr (List.mem_of_mem_tail hmem),
      fun hmem => hidle x x' hr ((h.aligned.mem_iff h.oneToOne hr).2 hmem)⟩
  apply h.congr hm .refl _ (.apart hapart) _ fun _ => hapart
  · intro x x' hr
    -- the fixture that ends is on top, and none of those that both have is
    have hhead : st.running.head? ≠ some x := fun heq =>
      hidle x x' hr (List.mem_of_mem_head? heq)
    rw [get?_fixtures_endHook]
    simp only [if_neg hhead, Option.map_id', true_and]
  · rw [extent_endHook]
    exact h.trails

/-- Two replays stay together when they read the same message. A fixture that it starts in the first
one is related to one that it starts in the second. -/
theorem step (h : Twins r st st') (isAfterAll : String → Bool) (m : Message) :
    ∃ r', Twins r' (st.step isAfterAll m) (st'.step isAfterAll m) ∧ Extends st.drawn r r'
      ∧ ∀ x, (st.step isAfterAll m).running = x :: st.running →
        ∃ x', (st'.step isAfterAll m).running = x' :: st'.running ∧ r' x x' := by
  obtain ⟨name, kind, start, rfl⟩ | ⟨e, rfl⟩ | ⟨hstart, hend⟩ := m.cases_of_hook
  -- a hook that starts, after all tests or not
  · simp only [Standing.step, startHook]
    split
    · have hfinalize := h.finalize.startFixture kind name start
      rwa [running_finalize, running_finalize, drawn_finalize] at hfinalize
    · exact h.startFixture kind name start
  · exact ⟨r, h.endHook e, .refl _ r, fun x hx => absurd hx (running_endHook_ne e st x)⟩
  -- anything that leaves the hooks alone
  · have hs : ∀ st : Standing, SameHooks (.inMemory {}) st (st.step isAfterAll m) :=
      sameHooks_step hstart hend
    refine ⟨r, h.same (moves_step isAfterAll m st) (moves_step isAfterAll m st') (hs st) (hs st')
      ?_ ?_, .refl _ r, fun x hx => ?_⟩
    · rw [extent_step, extent_step]
      exact h.trails.after isAfterAll m
    · rw [extent_step, extent_step]
      exact fun hne => h.apart fun heq => hne (by rw [heq])
    · rw [(hs st).running] at hx
      exact absurd hx (List.cons_ne_self x _).symm

/-- Two replays stay together when they read the same messages. -/
theorem steps (h : Twins r st st') (isAfterAll : String → Bool) (log : List Message) :
    ∃ r', Twins r' (st.steps isAfterAll log) (st'.steps isAfterAll log) ∧ Extends st.drawn r r'
      ∧ ∀ k x, st.Starts isAfterAll log k x → ∃ x', st'.Starts isAfterAll log k x' ∧ r' x x' := by
  -- what the relation gains with one message, it keeps for the rest of the log
  induction log generalizing r st st' with
  | nil => exact ⟨r, h, .refl _ r, fun k x hx => absurd hx not_starts_nil⟩
  | cons m rest ih =>
    obtain ⟨r₁, hstep, hextends, hstarts⟩ := h.step isAfterAll m
    obtain ⟨r₂, hsteps, hextends', hstarts'⟩ := ih hstep
    refine ⟨r₂, hsteps, hextends.trans (moves_step isAfterAll m st).drawn_le hextends', ?_⟩
    intro k x hx
    cases k with
    | zero =>
      obtain ⟨x', hx', hr⟩ := hstarts x hx
      exact ⟨x', hx', hextends'.old x x' hr⟩
    | succ k => exact hstarts' k x hx

/-- What two replays both have is the same in the end. -/
theorem stopped (h : Twins r st st') {x x' : Handle} (hr : r x x') :
    st'.stoppedFixtures.get? x' = (st.stoppedFixtures.get? x).map (·.under x') := by
  rw [get?_stoppedFixtures h.sound, get?_stoppedFixtures h.sound', h.records x x' hr]
  exact FixtureResult.map_under (fun _ _ => rfl) (h.aligned.mem_iff h.oneToOne hr) x' _

end Twins

end Standing

end Chronicle
