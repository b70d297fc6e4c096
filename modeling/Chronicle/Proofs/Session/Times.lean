import Chronicle.Proofs.Session.Leftovers
import Mathlib

/-!
# The order of recorded times

A recorder that is told no times reads them off its clock. If the clock never goes back, neither do
the times in the log of a context, whatever is asked for, in whichever contexts, and whether the
calls return or fail. There is one exception: a hook that fails without having started is made up
when it ends, and the time of its end is read before the time of its start.
`Recorder.sorted_times_iff` says that a log is in order just if no call makes up a hook in that way
while the clock goes on.
-/
namespace Chronicle

/-- The time that a message tells: when something started, or when it stopped. -/
def Message.time? : Message → Option Int
  | .testStart _ start | .hookStart _ _ start | .entry (.stepStart _ start) => some start
  | .testEnd ending => some ending.stop
  | .hookEnd ending => some ending.stop
  | .entry (.stepStop _ stop _) => some stop
  | .suiteStart .. | .suiteEnd | .testInfo _ => none
  | .entry (.metadata ..) | .entry (.attachment _) => none

/-- The times that messages tell, in the order of the messages. -/
def timesOf (ms : List Message) : List Int :=
  ms.filterMap Message.time?

/-- No messages have no times. -/
@[simp] theorem timesOf_nil : timesOf [] = [] := rfl

/-- The times of a log are those of its messages, in order. -/
@[simp] theorem timesOf_cons (m : Message) (ms : List Message) :
    timesOf (m :: ms) = m.time?.toList ++ timesOf ms := by
  unfold timesOf
  cases hm : m.time? <;> simp [hm]

/-- Logs one after the other have their times one after the other. -/
@[simp] theorem timesOf_append (ms ms' : List Message) :
    timesOf (ms ++ ms') = timesOf ms ++ timesOf ms' :=
  List.filterMap_append

namespace Recorder

variable {r r' r'' r₀ : Recorder} {m : Message} {t : Int} {n n' : Nat} {call : Call}

/-! ### Readings of the clock -/

/-- The time is a reading of the clock that was taken after the first recorder and before the clock
had been read `n` times. -/
def Read (r₀ : Recorder) (n : Nat) (t : Int) : Prop :=
  ∃ k, r₀.readings ≤ k ∧ k < n ∧ t = r₀.clock k

/-- What has been read stays read as the clock goes on. -/
theorem Read.mono (h : Read r₀ n t) (hle : n ≤ n') : Read r₀ n' t := by
  obtain ⟨k, hfirst, hlast, ht⟩ := h
  exact ⟨k, hfirst, by omega, ht⟩

/-- What has been added to the logs since the first recorder tells no times but those that have been
read off the clock since then. -/
structure Elapsed (r₀ r : Recorder) : Prop where
  clock : r.clock = r₀.clock
  readings : r₀.readings ≤ r.readings
  logs : ∀ id, ∃ ms, r.registry.logOf id = r₀.registry.logOf id ++ ms
    ∧ ∀ t ∈ timesOf ms, Read r₀ r.readings t

namespace Elapsed

/-- A recorder has elapsed by itself. -/
theorem refl (r : Recorder) : Elapsed r r :=
  ⟨rfl, Nat.le_refl _, fun _ => ⟨[], (List.append_nil _).symm, List.forall_mem_nil _⟩⟩

/-- Only the clock, its readings and the logs matter. -/
theorem congr (h : Elapsed r₀ r) (hclock : r'.clock = r.clock)
    (hreadings : r'.readings = r.readings)
    (hlogs : ∀ id, r'.registry.logOf id = r.registry.logOf id) : Elapsed r₀ r' := by
  refine ⟨hclock.trans h.clock, hreadings ▸ h.readings, fun id => ?_⟩
  rw [hlogs, hreadings]
  exact h.logs id

/-- A message may be pushed whose time, if any, has been read. -/
theorem push (h : Elapsed r₀ r) (hm : ∀ t, m.time? = some t → Read r₀ r.readings t) :
    Elapsed r₀ { r with registry := r.registry.push (some r.context) m } := by
  refine ⟨h.clock, h.readings, fun id => ?_⟩
  obtain ⟨ms, hlog, htimes⟩ := h.logs id
  rw [Registry.logOf_push, hlog, List.append_assoc]
  refine ⟨_, rfl, fun t ht => ?_⟩
  rw [timesOf_append, List.mem_append] at ht
  cases ht with
  | inl ht => exact htimes t ht
  | inr ht =>
    -- the message may be for the log of another context
    split at ht
    · exact hm t (by simpa using ht)
    · simp at ht

end Elapsed

/-- An action adds nothing to the logs but what tells times that have been read since the first
recorder, and it takes back no reading. This holds whether it succeeds or fails. -/
def Stamps {α : Type} (r₀ : Recorder) (act : Recording α) (r : Recorder) : Prop :=
  match act r with
  | .ok _ r' | .error _ r' => Elapsed r₀ r' ∧ r.readings ≤ r'.readings

namespace Stamps

variable {α β : Type} {act : Recording α}

/-- An action that only returns stamps nothing. -/
theorem pure (h : Elapsed r₀ r) (a : α) : Stamps r₀ (Pure.pure a : Recording α) r :=
  ⟨h, Nat.le_refl _⟩

/-- Nor does one that only fails. -/
theorem throw (h : Elapsed r₀ r) (e : RecordError) :
    Stamps r₀ (MonadExcept.throw e : Recording α) r :=
  ⟨h, Nat.le_refl _⟩

/-- Nor does a change that leaves the clock and the logs alone. -/
theorem change (h : Elapsed r₀ r) {f : Recorder → Recorder} (hclock : (f r).clock = r.clock)
    (hreadings : (f r).readings = r.readings)
    (hlogs : ∀ id, (f r).registry.logOf id = r.registry.logOf id) :
    Stamps r₀ (modify f : Recording PUnit) r :=
  ⟨h.congr hclock hreadings hlogs, Nat.le_of_eq hreadings.symm⟩

/-- What is done next may depend on the state. -/
theorem get {next : Recorder → Recording α} (h : Stamps r₀ (next r) r) :
    Stamps r₀ (MonadState.get >>= next) r :=
  h

/-- One action after another stamps what both do, the second from where the first has ended. -/
theorem bind {next : α → Recording β} (h : Stamps r₀ act r)
    (hnext : ∀ a r', Runs act r a r' → Elapsed r₀ r' → r.readings ≤ r'.readings →
      Stamps r₀ (next a) r') : Stamps r₀ (act >>= next) r := by
  unfold Stamps at h ⊢
  -- an action that fails leaves what it has stamped before
  cases hact : act r with
  | error e r' =>
    rw [error_of_bind hact]
    simp only [hact] at h
    exact h
  -- an action that returns hands its readings on to the next one
  | ok a r' =>
    simp only [hact] at h
    have hrest := hnext a r' hact h.1 h.2
    unfold Stamps at hrest
    rw [(show Runs act r a r' from hact).bind_eq]
    cases hlast : next a r' <;>
    · simp only [hlast] at hrest ⊢
      exact ⟨hrest.1, Nat.le_trans h.2 hrest.2⟩

/-- What an action returns has no part in this. -/
theorem map (h : Stamps r₀ act r) (f : α → β) :
    Stamps r₀ (act >>= fun a => Pure.pure (f a)) r :=
  h.bind fun a _ _ helapsed _ => pure helapsed (f a)

/-- A time that is not told is one that has been read. -/
private theorem time_bind {next : Int → Recording α} (h : Elapsed r₀ r)
    (hnext : ∀ t r', Elapsed r₀ r' → Read r₀ r'.readings t → r.readings ≤ r'.readings →
      Stamps r₀ (next t) r') : Stamps r₀ (time none >>= next) r := by
  have htime : Runs (time none) r (r.clock r.readings) { r with readings := r.readings + 1 } := rfl
  have hread : Read r₀ (r.readings + 1) (r.clock r.readings) :=
    ⟨r.readings, h.readings, Nat.lt_succ_self _, by rw [h.clock]⟩
  -- reading the clock makes no entry in a log
  have helapsed : Elapsed r₀ { r with readings := r.readings + 1 } := by
    refine ⟨h.clock, Nat.le_succ_of_le h.readings, fun id => ?_⟩
    obtain ⟨ms, hlog, htimes⟩ := h.logs id
    exact ⟨ms, hlog, fun t ht => (htimes t ht).mono (Nat.le_succ _)⟩
  have hrest := hnext _ _ helapsed hread (Nat.le_succ _)
  unfold Stamps at hrest ⊢
  rw [htime.bind_eq]
  cases hlast : next (r.clock r.readings) { r with readings := r.readings + 1 } <;>
  · simp only [hlast] at hrest ⊢
    exact ⟨hrest.1, Nat.le_trans (Nat.le_succ _) hrest.2⟩

end Stamps

/-! ### Calls -/

/-- To push a message stamps its time. -/
private theorem stamps_push (h : Elapsed r₀ r) (hm : ∀ t, m.time? = some t → Read r₀ r.readings t) :
    Stamps r₀ (push m) r := by
  unfold Stamps push
  cases hdefect : m.defect? with
  | none =>
    simp only [Message.checked, hdefect]
    exact ⟨h.push hm, Nat.le_refl _⟩
  | some d =>
    simp only [Message.checked, hdefect]
    exact ⟨h, Nat.le_refl _⟩

/-- A message that tells no time. -/
private theorem stamps_push_untimed (h : Elapsed r₀ r) (hm : m.time? = none) :
    Stamps r₀ (push m) r :=
  stamps_push h fun t ht => by cases hm.symm.trans ht

/-- A message that tells a time. -/
private theorem stamps_push_timed (h : Elapsed r₀ r) (hm : m.time? = some t)
    (ht : Read r₀ r.readings t) :
    Stamps r₀ (push m) r :=
  stamps_push h fun t' ht' => by
    cases hm.symm.trans ht'
    exact ht

/-- Looking at the session stamps nothing. -/
private theorem stamps_session (h : Elapsed r₀ r) : Stamps r₀ session r :=
  ⟨h.congr rfl rfl fun _ => Registry.logOf_register .., Nat.le_refl _⟩

/-- Nor does asking what is pending. -/
private theorem stamps_isPending (h : Elapsed r₀ r) (span : Span) : Stamps r₀ (isPending span) r :=
  (stamps_session h).map _

/-- A test starts at a time that has been read. -/
private theorem stamps_startTest (h : Elapsed r₀ r) (name : String) (ht : Read r₀ r.readings t) :
    Stamps r₀ (startTest name (some t)) r := by
  apply (stamps_push_timed h rfl ht).bind
  intro _ r₁ _ h₁ _
  apply Stamps.get
  apply (stamps_session h₁).bind
  intro s r₂ _ h₂ _
  exact stamps_push_untimed h₂ rfl

/-- A test without a start of its own starts at a reading. -/
private theorem stamps_startTest_none (h : Elapsed r₀ r) (name : String) :
    Stamps r₀ (startTest name none) r := by
  apply Stamps.time_bind h
  intro t r₁ h₁ ht _
  exact stamps_startTest h₁ name ht

/-- A test without a stop of its own ends at a reading. -/
private theorem stamps_endTest (h : Elapsed r₀ r) (status : Status) (stage : Option Stage)
    (duration : Option Int) (details : Option StatusDetails) :
    Stamps r₀ (endTest status stage none duration details) r := by
  apply Stamps.time_bind h
  intro t r₁ h₁ ht _
  exact stamps_push_timed h₁ rfl ht

/-- What is said about a test has no time. -/
private theorem stamps_addTestInfo (h : Elapsed r₀ r) (fullName : String) (file : Option String) :
    Stamps r₀ (addTestInfo fullName file) r := by
  apply (stamps_push_untimed h rfl).bind
  intro _ r₁ _ h₁ _
  split
  -- without a file the message is all there is
  · exact .pure h₁ ()
  · exact .pure h₁ ()
  · rename_i file _
    -- a file without a package fails after the first message has been pushed
    cases hpackage : packageOf (Path.ofText file) with
    | none =>
      simp only [hpackage]
      exact .throw h₁ _
    | some package =>
      simp only [hpackage]
      apply (Stamps.change h₁ rfl rfl fun _ => rfl).bind
      intro _ r₂ _ h₂ _
      apply (stamps_isPending h₂ .test).bind
      intro pending r₃ _ h₃ _
      cases pending with
      | true =>
        simp only [if_true]
        exact stamps_push_untimed h₃ rfl
      | false => exact .pure h₃ ()

/-- A start that is made up for a test is read before the end. -/
private theorem stamps_failTest (h : Elapsed r₀ r) (name : String) (status : Status)
    (details : Option StatusDetails) (duration : Option Int) :
    Stamps r₀ (failTest name status details none none duration) r := by
  apply (stamps_isPending h .test).bind
  intro pending r₁ _ h₁ _
  cases pending with
  | true => exact stamps_endTest h₁ _ _ _ _
  | false =>
    apply (stamps_startTest_none h₁ name).bind
    intro _ r₂ _ h₂ _
    exact stamps_endTest h₂ _ _ _ _

/-- A test that is skipped starts at a reading, unless it is pending, and ends at one after that. -/
private theorem stamps_skipTest (h : Elapsed r₀ r) (name : Option String) :
    Stamps r₀ (skipTest name none) r := by
  apply (stamps_isPending h .test).bind
  intro pending r₁ _ h₁ _
  cases pending with
  | true => exact stamps_endTest h₁ _ _ _ _
  | false =>
    cases name with
    -- without a name nothing is added
    | none => exact .throw h₁ _
    | some name =>
      apply (stamps_startTest_none h₁ name).bind
      intro _ r₂ _ h₂ _
      exact stamps_endTest h₂ _ _ _ _

/-- A hook without a start of its own starts at a reading. -/
private theorem stamps_startHook (h : Elapsed r₀ r) (name : String) (kind : Option HookKind) :
    Stamps r₀ (startHook name kind none) r := by
  apply (stamps_isPending h .suite).bind
  intro pending r₁ _ h₁ _
  cases pending with
  | false => exact .pure h₁ false
  | true =>
    apply Stamps.time_bind h₁
    intro t r₂ h₂ ht _
    exact (stamps_push_timed h₂ rfl ht).map _

/-- A hook ends at a reading; one that is made up starts at a later one. -/
private theorem stamps_endHook (h : Elapsed r₀ r) (name : String) (error : Option StatusDetails)
    (kind : Option HookKind) (duration : Option Int) :
    Stamps r₀ (endHook name error kind none none duration) r := by
  apply (stamps_session h).bind
  intro s r₁ _ h₁ _
  split
  · exact .pure h₁ false
  apply Stamps.time_bind h₁
  intro stop r₂ h₂ hstop _
  split
  · -- the hook is a test of its own
    apply Stamps.time_bind h₂
    intro start r₃ h₃ hstart hle₃
    -- the stop was read before the start, and both before the first message
    apply (stamps_startTest h₃ name hstart).bind
    intro _ r₄ _ h₄ hle₄
    apply (stamps_push_timed h₄ rfl (hstart.mono hle₄)).bind
    intro _ r₅ _ h₅ hle₅
    have hstop₅ := hstop.mono (hle₃.trans (hle₄.trans hle₅))
    apply (stamps_push_timed h₅ rfl hstop₅).bind
    intro _ r₆ _ h₆ hle₆
    exact (stamps_push_timed h₆ rfl (hstop₅.mono hle₆)).map _
  cases hmissing : (error.isSome && !s.isPending .hook) with
  | true =>
    -- only the start of the hook is made up
    simp only [if_true]
    apply Stamps.time_bind h₂
    intro start r₃ h₃ hstart hle₃
    apply (stamps_push_timed h₃ rfl hstart).bind
    intro _ r₄ _ h₄ hle₄
    exact (stamps_push_timed h₄ rfl (hstop.mono (hle₃.trans hle₄))).map _
  | false =>
    simp only [Bool.false_eq_true, if_false]
    exact (stamps_push_timed h₂ rfl hstop).map _

namespace Call

/-- Whether a call is told no time. A duration is no time. -/
def isUntimed : Call → Bool
  | .startTest _ start | .skipTest _ start | .startStep _ start | .startHook _ _ start =>
    start.isNone
  | .endTest _ _ stop _ _ | .passTest stop _ | .endStep _ stop _ => stop.isNone
  | .failTest _ _ _ start stop _ | .endHook _ _ _ start stop _ => start.isNone && stop.isNone
  | _ => true

/-- The recorder after a call, whether the call returns or fails. -/
def after (r : Recorder) (call : Call) : Recorder :=
  match call.perform r with
  | .ok _ r' | .error _ r' => r'

/-- A call that is told no time reads all times that it adds. -/
private theorem stamps_perform (hcall : call.isUntimed = true) (h : Elapsed r₀ r) :
    Stamps r₀ call.perform r := by
  cases call with
  | useContext contextId => exact (Stamps.change h rfl rfl fun _ => rfl).map _
  | session => exact (stamps_session h).map _
  -- the name is put on the stack before the message is pushed
  | startSuite name isFeature =>
    apply Stamps.map (f := fun _ => none)
    apply (Stamps.change h rfl rfl fun _ => rfl).bind
    intro _ r₁ _ h₁ _
    exact stamps_push_untimed h₁ rfl
  | endSuite =>
    apply Stamps.map (f := fun _ => none)
    apply (stamps_push_untimed h rfl).bind
    intro _ r₁ _ h₁ _
    exact .change h₁ rfl rfl fun _ => rfl
  | startTest name start =>
    obtain rfl := Option.isNone_iff_eq_none.1 hcall
    exact (stamps_startTest_none h name).map _
  | addTestInfo fullName file => exact (stamps_addTestInfo h fullName file).map _
  -- labels and parameters carry no time
  | addLabels labels =>
    apply Stamps.map (f := fun _ => none)
    unfold Recorder.addLabels
    split
    · exact .pure h ()
    · exact stamps_push_untimed h rfl
  | addParameters parameters =>
    apply Stamps.map (f := fun _ => none)
    unfold Recorder.addParameters
    split
    · exact .pure h ()
    · exact stamps_push_untimed h rfl
  | endTest status stage stop duration details =>
    obtain rfl := Option.isNone_iff_eq_none.1 hcall
    exact (stamps_endTest h status stage duration details).map _
  | passTest stop duration =>
    obtain rfl := Option.isNone_iff_eq_none.1 hcall
    exact (stamps_endTest h .passed (some .finished) duration none).map _
  -- the times that are given are none, so both are read
  | failTest name status details start stop duration =>
    simp only [isUntimed, Bool.and_eq_true, Option.isNone_iff_eq_none] at hcall
    obtain ⟨rfl, rfl⟩ := hcall
    exact (stamps_failTest h name status details duration).map _
  | skipTest name start =>
    obtain rfl := Option.isNone_iff_eq_none.1 hcall
    exact (stamps_skipTest h name).map _
  | startStep name start =>
    obtain rfl := Option.isNone_iff_eq_none.1 hcall
    apply Stamps.map (f := fun _ => none)
    apply Stamps.time_bind h
    intro t r₁ h₁ ht _
    exact stamps_push_timed h₁ rfl ht
  | endStep status stop details =>
    obtain rfl := Option.isNone_iff_eq_none.1 hcall
    apply Stamps.map (f := fun _ => none)
    apply Stamps.time_bind h
    intro t r₁ h₁ ht _
    exact stamps_push_timed h₁ rfl ht
  | startHook name kind start =>
    obtain rfl := Option.isNone_iff_eq_none.1 hcall
    exact (stamps_startHook h name kind).map some
  | endHook name error kind start stop duration =>
    simp only [isUntimed, Bool.and_eq_true, Option.isNone_iff_eq_none] at hcall
    obtain ⟨rfl, rfl⟩ := hcall
    exact (stamps_endHook h name error kind duration).map some
  | markRetried | attach | attachText => exact (stamps_push_untimed h rfl).map _

/-- What a call leaves has elapsed, whether it has returned or failed. -/
private theorem elapsed_after (hcall : call.isUntimed = true) (h : Elapsed r₀ r) :
    Elapsed r₀ (call.after r) := by
  have hstamps := stamps_perform hcall h
  unfold Stamps at hstamps
  unfold after
  cases hact : call.perform r <;>
  · simp only [hact] at hstamps ⊢
    exact hstamps.1

/-- What a call that returns adds breaks no rule. -/
private theorem begun_of_fault?_eq_none (hnone : call.fault? r = none) :
    call.begun r = call.messages r := by
  have hmap : ∀ o : Option Defect, o.map RecordError.defect = none → o = none :=
    fun _ h => Option.map_eq_none_iff.1 h
  -- without a fault no message has a defect
  have hsound : firstDefect (call.messages r) = none := by
    cases call with
    | addTestInfo fullName file =>
      -- neither the name of a test nor the label of its package can break a rule
      simp only [messages]
      split
      · cases (addTestInfo fullName file).package? <;> rfl
      · rfl
    | skipTest name start =>
      cases name with
      | some name => exact hmap _ hnone
      | none =>
        simp only [fault?] at hnone
        split at hnone
        · exact hmap _ hnone
        · cases hnone
    | _ => exact hmap _ hnone
  have hall : soundPart (call.messages r ++ []) = call.messages r ++ soundPart [] :=
    soundPart_append_of_none hsound
  rw [List.append_nil] at hall
  exact hall.trans (List.append_nil _)

/-- A call that is known to return or to fail adds its messages up to the first one that breaks a
rule. -/
private theorem logOf_after_of_returns_or_failed
    (h : (call.fault? r = none ∧ ∃ answer r', Runs call.perform r answer r')
      ∨ ∃ e r', call.perform r = .error e r' ∧ call.Failed r e r') (id : String) :
    (call.after r).registry.logOf id
      = r.registry.logOf id ++ if id = r.context then call.begun r else [] := by
  unfold after
  rcases h with ⟨hnone, answer, r', hruns⟩ | ⟨e, r', herror, hfailed⟩
  · rw [show call.perform r = .ok answer r' from hruns, begun_of_fault?_eq_none hnone]
    exact (done hruns).logOf id
  · rw [herror]
    exact hfailed.logOf id

/-- A call adds its messages up to the first one that breaks a rule to the log of the active
context, and to no other one. -/
private theorem logOf_after (call : Call) (r : Recorder) (id : String) :
    (call.after r).registry.logOf id
      = r.registry.logOf id ++ if id = r.context then call.begun r else [] := by
  by_cases hplain : call.isPlain r = true
  · exact logOf_after_of_returns_or_failed (returns_or_failed_of_isPlain hplain) id
  · cases call with
    -- choosing a context and ending a suite always return
    | useContext contextId =>
      apply logOf_after_of_returns_or_failed
      exact .inl ⟨rfl, none, _, rfl⟩
    | startSuite name isFeature =>
      exact logOf_after_of_returns_or_failed (returns_or_failed_startSuite name isFeature r) id
    | endSuite =>
      apply logOf_after_of_returns_or_failed
      exact .inl ⟨rfl, none, _, rfl⟩
    | addTestInfo fullName file =>
      exact logOf_after_of_returns_or_failed (returns_or_failed_addTestInfo fullName file r) id
    | skipTest name start =>
      cases name with
      | some name => exact absurd rfl hplain
      | none =>
        have hpending : r.hasPending .test = false := Bool.eq_false_iff.2 hplain
        -- a skipped test without a name is refused before anything is added
        obtain ⟨r', herror, hwrote⟩ := skipTest_eq_error hpending start
        have hnothing : (skipTest none start).begun r = [] := by
          simp [begun, messages, hpending, startMessages, soundPart, Message.Sound,
            Message.defect?, Defect.ofName]
        unfold after
        rw [herror, hnothing]
        exact hwrote.logOf id
    | _ => exact absurd rfl hplain

/-! ### The times of one call -/

/-- Whether a call makes up the start of a hook that ends. -/
def makesUpHook (r : Recorder) : Call → Bool
  | .endHook _ error .. => error.isSome && r.hasPending .suite && !r.hasPending .hook
  | _ => false

/-- The call makes up a hook, the end of the hook is recorded, and the clock has gone on before it
is read for the start. -/
def Backdates (r : Recorder) (call : Call) : Prop :=
  call.makesUpHook r = true ∧ r.clock r.readings ∈ timesOf (call.begun r)
    ∧ r.clock r.readings < r.clock (r.readings + 1)

/-- Of the messages that start a test, one has a time. -/
private theorem timesOf_startMessages (r : Recorder) (name : String) (start : Int) :
    timesOf (r.startMessages name start) = [start] := rfl

/-- The end of a hook that is made up has been read before its start. -/
private theorem timesOf_messages_of_makesUpHook (hcall : call.isUntimed = true)
    (hhook : call.makesUpHook r = true) :
    timesOf (call.messages r) = [r.clock (r.readings + 1), r.clock (r.readings + 1),
        r.clock r.readings, r.clock r.readings]
      ∨ timesOf (call.messages r) = [r.clock (r.readings + 1), r.clock r.readings] := by
  cases call with
  | endHook name error kind start stop duration =>
    simp only [isUntimed, Bool.and_eq_true, Option.isNone_iff_eq_none] at hcall
    obtain ⟨rfl, rfl⟩ := hcall
    simp only [makesUpHook, Bool.and_eq_true, Bool.not_eq_true'] at hhook
    -- there is an error, a suite is pending, and no hook is
    obtain ⟨⟨herror, hsuite⟩, hhook⟩ := hhook
    -- a test is made up together with the hook, unless one is pending
    cases htest : r.hasPending .test with
    | false =>
      left
      simp [messages, herror, hsuite, hhook, htest, timesOf_startMessages, Message.time?, timeAfter,
        readingsFor]
    | true =>
      right
      simp [messages, herror, hsuite, hhook, htest, Message.time?, timeAfter, readingsFor]
  | _ => cases hhook

/-- All other calls read their times in the order in which they add them. -/
private theorem sorted_messages (hclock : Monotone r.clock) (hcall : call.isUntimed = true)
    (hhook : call.makesUpHook r = false) : (timesOf (call.messages r)).Pairwise (· ≤ ·) := by
  -- the clock does not go back from one reading to the next
  have hnext : r.clock r.readings ≤ r.clock (r.readings + 1) := hclock (Nat.le_succ _)
  cases call with
  -- the start is read before the stop
  | failTest name status details start stop duration =>
    simp only [isUntimed, Bool.and_eq_true, Option.isNone_iff_eq_none] at hcall
    obtain ⟨rfl, rfl⟩ := hcall
    cases htest : r.hasPending .test <;>
      simp [messages, htest, timesOf_startMessages, Message.time?, timeAfter, readingsFor, hnext]
  | skipTest name start =>
    obtain rfl := Option.isNone_iff_eq_none.1 hcall
    cases htest : r.hasPending .test <;>
      simp [messages, htest, timesOf_startMessages, Message.time?, timeAfter, readingsFor, hnext]
  | startHook | addLabels | addParameters =>
    simp only [messages]
    split <;> simp [Message.time?]
  | addTestInfo fullName file =>
    simp only [messages]
    cases (addTestInfo fullName file).package? <;> split <;> simp [Message.time?]
  | endHook name error kind start stop duration =>
    cases hsuite : r.hasPending .suite with
    | false => simp [messages, hsuite]
    | true =>
      -- nothing is made up, so there is one message
      have hfound : (error.isSome && !r.hasPending .hook) = false := by
        simpa [makesUpHook, hsuite] using hhook
      have htest : (error.isSome && !r.hasPending .test && !r.hasPending .hook) = false := by
        rw [Bool.and_right_comm, hfound, Bool.false_and]
      simp only [messages, hsuite, htest, hfound, Bool.not_true, Bool.false_eq_true, if_false]
      simp [Message.time?]
  | _ => simp [messages, timesOf_startMessages, Message.time?]

/-- What a call has added when it ends is the beginning of its messages. -/
private theorem timesOf_begun_isPrefix (call : Call) (r : Recorder) :
    timesOf (call.begun r) <+: timesOf (call.messages r) :=
  (List.takeWhile_prefix _).filterMap _

/-- Within a call, a time before an earlier one is that of the end of a hook that is made up. -/
private theorem backward_begun (hclock : Monotone r.clock) (hcall : call.isUntimed = true) :
    (timesOf (call.begun r)).Pairwise fun s t => t < s →
      call.Backdates r ∧ s = r.clock (r.readings + 1) ∧ t = r.clock r.readings := by
  have hbegun := timesOf_begun_isPrefix call r
  cases hhook : call.makesUpHook r with
  -- without a hook that is made up, times are in the order of readings
  | false =>
    have hsorted := (sorted_messages hclock hcall hhook).sublist hbegun.sublist
    exact hsorted.imp fun hle hlt => absurd hle (Int.not_le.2 hlt)
  -- with one, the stop of the hook was read before its start
  | true =>
    have hpairs : (timesOf (call.messages r)).Pairwise fun s t => t < s →
        s = r.clock (r.readings + 1) ∧ t = r.clock r.readings := by
      rcases timesOf_messages_of_makesUpHook hcall hhook with htimes | htimes <;> simp [htimes]
    apply (hpairs.sublist hbegun.sublist).imp_of_mem
    intro s t _ ht hpair hlt
    obtain ⟨rfl, rfl⟩ := hpair hlt
    exact ⟨⟨hhook, ht, hlt⟩, rfl, rfl⟩

/-- The start of such a hook stands before its end. -/
private theorem Backdates.not_sorted (h : call.Backdates r) (hcall : call.isUntimed = true) :
    ¬(timesOf (call.begun r)).Pairwise (· ≤ ·) := by
  obtain ⟨hhook, hmem, hlt⟩ := h
  have hbegun := timesOf_begun_isPrefix call r
  cases htimes : timesOf (call.begun r) with
  | nil => simp [htimes] at hmem
  | cons s rest =>
    -- the first time of the call is the later reading
    have hfirst : s = r.clock (r.readings + 1) := by
      rcases timesOf_messages_of_makesUpHook hcall hhook with hall | hall <;>
      · rw [htimes, hall] at hbegun
        exact (List.cons_prefix_cons.1 hbegun).1
    rw [htimes, List.mem_cons, hfirst] at hmem
    intro hsorted
    cases hmem with
    -- the earlier reading is the first time after all, or comes behind it
    | inl heq => omega
    | inr hrest =>
      have hle := List.rel_of_pairwise_cons hsorted hrest
      omega

end Call

/-! ### Calls one after another -/

/-- The recorder after calls that return or fail. -/
def afterAll (r : Recorder) (calls : List Call) : Recorder :=
  calls.foldl Call.after r

/-- One more call comes after all the others. -/
private theorem afterAll_snoc (r : Recorder) (calls : List Call) (call : Call) :
    r.afterAll (calls ++ [call]) = call.after (r.afterAll calls) := by
  simp only [afterAll, List.foldl_append, List.foldl_cons, List.foldl_nil]

/-- Calls without times of their own only let time elapse, by induction on them. -/
private theorem elapsed_afterAll {calls : List Call}
    (hcalls : ∀ call ∈ calls, call.isUntimed = true) (r : Recorder) :
    Elapsed r (r.afterAll calls) := by
  induction calls using List.reverseRecOn with
  | nil => exact .refl r
  | append_singleton calls call ih =>
    obtain ⟨hbefore, hlast⟩ := List.forall_mem_append.1 hcalls
    rw [afterAll_snoc]
    exact Call.elapsed_after (hlast call (List.mem_singleton_self call)) (ih hbefore)

/-- One of the calls, in this context, has added both messages and a time that goes back from the
first to the second. -/
def GoesBack (r : Recorder) (calls : List Call) (id : String) (m m' : Message) : Prop :=
  ∃ before call after, calls = before ++ call :: after
    ∧ (r.afterAll before).context = id ∧ call.Backdates (r.afterAll before)
    ∧ m ∈ call.begun (r.afterAll before) ∧ m' ∈ call.begun (r.afterAll before)
    ∧ m.time? = some (r.clock ((r.afterAll before).readings + 1))
    ∧ m'.time? = some (r.clock (r.afterAll before).readings)

/-- What goes back after some calls still does after one more. -/
theorem GoesBack.snoc {calls : List Call} {id : String} {m m' : Message}
    (h : r.GoesBack calls id m m') (call : Call) : r.GoesBack (calls ++ [call]) id m m' := by
  obtain ⟨before, call', after, rfl, hrest⟩ := h
  exact ⟨before, call', after ++ [call], by simp, hrest⟩

/-- In the log of a context, a time goes back only from the start of a hook that is made up to its
end. -/
private theorem goesBack_of_lt (hlogs : ∀ id, r.registry.logOf id = []) (hclock : Monotone r.clock)
    {calls : List Call} (hcalls : ∀ call ∈ calls, call.isUntimed = true) (id : String) :
    ((r.afterAll calls).registry.logOf id).Pairwise fun m m' =>
      ∀ s, m.time? = some s → ∀ t, m'.time? = some t → t < s → r.GoesBack calls id m m' := by
  -- from the last call, so that what it adds comes at the end
  induction calls using List.reverseRecOn with
  | nil =>
    rw [show r.afterAll [] = r from rfl, hlogs]
    exact .nil
  | append_singleton calls call ih =>
    obtain ⟨hbefore, hlast⟩ := List.forall_mem_append.1 hcalls
    have huntimed := hlast call (List.mem_singleton_self call)
    have helapsed := elapsed_afterAll hbefore r
    have hsame : (r.afterAll calls).clock = r.clock := helapsed.clock
    have hlog := Call.logOf_after call (r.afterAll calls) id
    rw [afterAll_snoc, hlog, List.pairwise_append]
    refine ⟨?_, ?_, ?_⟩
    -- pairs from before stay as they are
    · apply (ih hbefore).imp
      intro m m' hold s hs t ht hlt
      exact (hold s hs t ht hlt).snoc call
    · split
      · rename_i hid
        -- within the call
        have hpairs := List.pairwise_filterMap.1
          (Call.backward_begun (hsame ▸ hclock) huntimed)
        apply hpairs.imp_of_mem
        intro m m' hm hm' hpair s hs t ht hlt
        obtain ⟨hback, rfl, rfl⟩ := hpair s hs t ht hlt
        rw [hsame] at hs ht
        exact ⟨calls, call, [], rfl, hid.symm, hback, hm, hm', hs, ht⟩
      · exact .nil
    · -- what was there before has been read before
      intro m hm m' hm' s hs t ht hlt
      exfalso
      obtain ⟨ms, hms, htimes⟩ := helapsed.logs id
      rw [hlogs, List.nil_append] at hms
      obtain ⟨k, -, hk, rfl⟩ := htimes s (List.mem_filterMap.2 ⟨m, hms ▸ hm, hs⟩)
      obtain ⟨ms', hms', htimes'⟩ :=
        (Call.elapsed_after huntimed (.refl (r.afterAll calls))).logs id
      rw [hlog] at hms'
      have hadded := List.append_cancel_left hms'
      obtain ⟨j, hj, -, rfl⟩ := htimes' t (List.mem_filterMap.2 ⟨m', hadded ▸ hm', ht⟩)
      rw [hsame] at hlt
      have hle : r.clock k ≤ r.clock j := hclock (by omega)
      omega

/-- What a call has added stays where it is, in the middle of what calls add before and after. -/
private theorem exists_logOf_afterAll (r : Recorder) (before : List Call) (call : Call)
    (after : List Call) (id : String) (hid : (r.afterAll before).context = id) :
    ∃ ms ms', (r.afterAll (before ++ call :: after)).registry.logOf id
      = ms ++ call.begun (r.afterAll before) ++ ms' := by
  -- later calls leave what a log has
  have hlater : ∀ r', ∃ ms', (afterAll r' after).registry.logOf id
      = r'.registry.logOf id ++ ms' := by
    induction after with
    | nil => exact fun r' => ⟨[], (List.append_nil _).symm⟩
    | cons call' rest ih =>
      intro r'
      obtain ⟨ms', hms'⟩ := ih (call'.after r')
      exact ⟨_, by rw [show afterAll r' (call' :: rest) = afterAll (call'.after r') rest from rfl,
        hms', Call.logOf_after, List.append_assoc]⟩
  -- the call adds its part to what the calls before have left
  obtain ⟨ms', hms'⟩ := hlater (call.after (r.afterAll before))
  refine ⟨(r.afterAll before).registry.logOf id, ms', ?_⟩
  rw [afterAll, List.foldl_append, List.foldl_cons]
  exact hms'.trans (by rw [Call.logOf_after, if_pos hid.symm])

section

variable {defaultContext language framework : String} {registry : Registry} {clock : Nat → Int}
  {calls : List Call}

/-- Whatever is asked of a recorder in whatever contexts, by calls that are told no time and that
return or fail: if its clock never goes back, the times in the log of a context go back only from
the start of a hook to its end, where the hook fails without having started. The times in a log are
in order just if no call in its context backdates a hook like that. -/
theorem sorted_times_iff (hr : Registry.create defaultContext = .ok registry)
    (hclock : Monotone clock) (hcalls : ∀ call ∈ calls, call.isUntimed = true) (id : String) :
    ((timesOf
        (((onto registry language framework clock).afterAll calls).registry.logOf id)).Pairwise
        (· ≤ ·)
      ↔ ∀ before call after, calls = before ++ call :: after →
        ((onto registry language framework clock).afterAll before).context = id →
        ¬call.Backdates ((onto registry language framework clock).afterAll before))
    ∧ (((onto registry language framework clock).afterAll calls).registry.logOf id).Pairwise
      fun m m' => ∀ s, m.time? = some s → ∀ t, m'.time? = some t → t < s →
        (onto registry language framework clock).GoesBack calls id m m' := by
  obtain ⟨-, rfl⟩ := Registry.eq_of_create hr
  have hback := goesBack_of_lt (r := onto { defaultContext := defaultContext } language framework
    clock) (fun _ => rfl) hclock hcalls id
  refine ⟨⟨?_, ?_⟩, hback⟩
  -- a hook that is made up in that way shows in the log of its context
  · intro hsorted before call after hsplit hid hbackdates
    subst hsplit
    obtain ⟨ms, ms', hlog⟩ := exists_logOf_afterAll _ before call after id hid
    rw [hlog, timesOf_append, timesOf_append, List.pairwise_append, List.pairwise_append] at hsorted
    exact hbackdates.not_sorted (hcalls call (by simp)) hsorted.1.2.1
  -- two times out of order come from such a hook
  · intro hnone
    apply List.pairwise_filterMap.2
    apply hback.imp
    intro m m' hpair s hs t ht
    by_contra hlt
    obtain ⟨before, call, after, hsplit, hid, hbackdates, -⟩ := hpair s hs t ht (by omega)
    exact hnone before call after hsplit hid hbackdates

end

/-- In one context a suite has no name and a test fails before it has started; in the other one a
hook fails before it has started. Only there does a time go back, and it is that hook's. -/
theorem sorted_times_iff_of_two_contexts :
    Registry.create "0-0" = .ok {} ∧ Monotone (fun n : Nat => (n : Int))
      ∧ (∀ call ∈ [Call.startSuite "s" false, .useContext (some "1-0"), .startSuite "" false,
          .failTest "a" .failed none none none none, .useContext none,
          .endHook "before all" (some { message := some "no" }) none none none none],
        call.isUntimed = true)
      ∧ ∃ before call after, [Call.startSuite "s" false, .useContext (some "1-0"),
          .startSuite "" false, .failTest "a" .failed none none none none, .useContext none,
          .endHook "before all" (some { message := some "no" }) none none none none]
          = before ++ call :: after
        ∧ ((onto {} "python" "lifecycle-report" fun n => n).afterAll before).context = "0-0"
        ∧ call.Backdates ((onto {} "python" "lifecycle-report" fun n => n).afterAll before) := by
  have hr : Registry.create "0-0" = .ok {} := rfl
  have hclock : Monotone (fun n : Nat => (n : Int)) := fun _ _ hle => Int.ofNat_le.2 hle
  refine ⟨hr, hclock, by decide, ?_⟩
  have hsorted := (@sorted_times_iff "0-0" "python" "lifecycle-report" {} (fun n => n)
    [.startSuite "s" false, .useContext (some "1-0"), .startSuite "" false,
      .failTest "a" .failed none none none none, .useContext none,
      .endHook "before all" (some { message := some "no" }) none none none none] hr hclock
    (by decide) "0-0").1.2
  -- if no call went back, the log would be sorted, and it is not
  by_contra hnone
  have hall := hsorted fun before call after hsplit hid hbackdates =>
    hnone ⟨before, call, after, hsplit, hid, hbackdates⟩
  revert hall
  decide +kernel

/-- A hook that fails outside any test is recorded as one that ends before it starts. -/
theorem unsorted_of_failing_hook :
    Monotone (fun n : Nat => (n : Int))
      ∧ (∀ call ∈ [Call.startSuite "s" false,
          .endHook "before all" (some { message := some "no" }) none none none none],
        call.isUntimed = true)
      ∧ timesOf (((onto {} "python" "lifecycle-report" fun n => n).afterAll
          [.startSuite "s" false, .endHook "before all" (some { message := some "no" }) none none
            none none]).registry.logOf "0-0") = [1, 1, 0, 0]
      ∧ ¬(timesOf (((onto {} "python" "lifecycle-report" fun n => n).afterAll
          [.startSuite "s" false, .endHook "before all" (some { message := some "no" }) none none
            none none]).registry.logOf "0-0")).Pairwise (· ≤ ·) := by
  have htimes : timesOf (((onto {} "python" "lifecycle-report" fun n => n).afterAll
      [.startSuite "s" false, .endHook "before all" (some { message := some "no" }) none none
        none none]).registry.logOf "0-0") = [1, 1, 0, 0] := by decide +kernel
  refine ⟨fun _ _ hle => Int.ofNat_le.2 hle, by decide, htimes, ?_⟩
  rw [htimes]
  decide

end Recorder

end Chronicle
