import Chronicle.Proofs.Follows
import Chronicle.Proofs.Session.Pending
import Chronicle.Proofs.Session.Uses
import Chronicle.Session.Recorder

/-!
# Calls of a recorder

A `Recorder.Call` is anything that can be asked of a recorder, but for reading its labels and its
context, which changes nothing. `Call.messages` says what a call that returns adds to the log of the
active context. `Call.done` is all that is known of a call: these messages, the names of the open
suites and the package of that context, and nothing of any other context.
-/
namespace Chronicle

namespace Registry

/-- The log of a context; a context without a session has an empty one. -/
def logOf (r : Registry) (id : String) : List Message :=
  ((r.find? id).map (·.log)).getD []

/-- The context that an id stands for stands for itself. -/
@[simp] theorem resolve_some_resolve (r : Registry) (contextId : Option String) :
    r.resolve (some (r.resolve contextId)) = r.resolve contextId := by
  rcases contextId with _ | id
  · exact ite_self _
  · by_cases hid : id = "" <;> simp [resolve, hid]

/-- The session that a context is given has the log of that context, also when it is made for it. -/
private theorem log_sessionOf (r : Registry) (contextId : Option String) :
    (r.sessionOf contextId).log = r.logOf (r.resolve contextId) := by
  cases hfind : r.find? (r.resolve contextId) <;> simp [sessionOf, logOf, hfind]

/-- A new session has an empty log, which is what a context without one has. -/
theorem logOf_register (r : Registry) (contextId : Option String) (id : String) :
    (r.register contextId).logOf id = r.logOf id := by
  by_cases hcontains : r.contains (r.resolve contextId) = true
  · rw [register, if_pos hcontains]
  · -- the session that is made has nothing in its log
    have hnone : r.find? (r.resolve contextId) = none := by
      simpa [contains] using hcontains
    rw [register, if_neg hcontains]
    simp only [logOf, find?, List.find?_append] at hnone ⊢
    by_cases hid : r.resolve contextId = id
    · subst hid
      simp [hnone]
    · simp [hid]

/-- A context that has been registered has a session. -/
private theorem isSome_find?_register (r : Registry) (contextId : Option String) :
    ((r.register contextId).find? (r.resolve contextId)).isSome = true := by
  by_cases hcontains : r.contains (r.resolve contextId) = true
  · rwa [register, if_pos hcontains]
  · rw [register, if_neg hcontains]
    simp [find?, List.find?_append]

/-- A message goes to the session of its context and to no other one. -/
private theorem find?_push (r : Registry) (contextId : Option String) (m : Message) (id : String) :
    (r.push contextId m).find? id = ((r.register contextId).find? id).map fun s =>
      if s.contextId = r.resolve contextId then s.push m else s := by
  have hkept : ∀ s : Session, (if s.contextId = r.resolve contextId then s.push m else s).contextId
      = s.contextId := fun s => by split <;> rfl
  simp only [push, find?, List.find?_map, Function.comp_def, hkept]

/-- The log of a context grows by the messages that are meant for it. -/
theorem logOf_push (r : Registry) (contextId : Option String) (m : Message) (id : String) :
    (r.push contextId m).logOf id
      = r.logOf id ++ if r.resolve contextId = id then [m] else [] := by
  rw [← r.logOf_register contextId, logOf, logOf, find?_push]
  cases hfind : (r.register contextId).find? id with
  | none =>
    -- a context that has no session is not the one that is used
    have hne : r.resolve contextId ≠ id := fun heq => by
      have hsome := r.isSome_find?_register contextId
      rw [heq, hfind] at hsome
      cases hsome
    simp [hne]
  | some s =>
    have hid : s.contextId = id := by simpa using List.find?_some hfind
    -- the message goes to the log of this context, or to that of another one
    by_cases heq : id = r.resolve contextId
    · simp [hid, heq, Session.push]
    · simp [hid, heq, Ne.symm heq]

/-- The log of a context grows by what a use of it pushes. -/
private theorem logOf_use (r : Registry) (u : Use) (id : String) :
    (r.use u).logOf id = r.logOf id ++ if r.resolve u.contextId = id then u.messages else [] := by
  cases u with
  | push contextId m => exact r.logOf_push contextId m id
  | getOrCreate contextId =>
    simp only [use, Use.messages, ite_self, List.append_nil, logOf_register]

/-- The log of a context is what it was, and then all that the uses have pushed for it, in order. -/
theorem logOf_useAll (r : Registry) (uses : List Use) (id : String) :
    (r.useAll uses).logOf id = r.logOf id ++ r.messagesOf id uses := by
  induction uses using List.reverseRecOn with
  | nil => exact (List.append_nil _).symm
  | append_singleton uses u ih =>
    have hresolve : (r.useAll uses).resolve u.contextId = r.resolve u.contextId := by
      simp only [resolve, defaultContext_useAll]
    rw [useAll_snoc, logOf_use, ih, messagesOf_snoc, hresolve, List.append_assoc]

/-- Uses of one context leave the logs of all others alone. -/
theorem logOf_useAll_of_resolve {r : Registry} {uses : List Use} {context : String}
    (huses : ∀ u ∈ uses, r.resolve u.contextId = context) (id : String) :
    (r.useAll uses).logOf id
      = r.logOf id ++ if id = context then uses.flatMap (·.messages) else [] := by
  rw [logOf_useAll, messagesOf]
  by_cases hid : id = context
  · have hall : uses.filter (fun u => r.resolve u.contextId = id) = uses :=
      List.filter_eq_self.2 fun u hu => decide_eq_true ((huses u hu).trans hid.symm)
    rw [hall, if_pos hid]
  · have hnone : uses.filter (fun u => r.resolve u.contextId = id) = [] :=
      List.filter_eq_nil_iff.2 fun u hu heq => hid ((of_decide_eq_true heq).symm.trans (huses u hu))
    rw [hnone, if_neg hid, List.flatMap_nil]

end Registry

/-- Whether a message neither starts nor ends a suite or a test. -/
def Message.isInner : Message → Bool
  | .suiteStart .. | .suiteEnd | .testStart .. | .testEnd .. => false
  | _ => true

namespace Recorder

variable {r r' r'' : Recorder} {ms ms' : List Message} {n n' : Nat}

/-- The log of the active context. -/
def log (r : Recorder) : List Message :=
  r.registry.logOf r.context

/-- Whether a span is pending in the active context. -/
def hasPending (r : Recorder) (span : Span) : Bool :=
  Chronicle.isPending span r.log

/-- Whether a hook that fails becomes a test of its own. -/
def breaksHook (r : Recorder) : Bool :=
  r.hasPending .suite && !r.hasPending .test && !r.hasPending .hook

/-- A time, read from the clock after `n` other readings if it is not told. -/
def timeAfter (r : Recorder) (n : Nat) (t : Option Int) : Int :=
  t.getD (r.clock (r.readings + n))

/-- How often the clock is read for a time. -/
def readingsFor (t : Option Int) : Nat :=
  if t.isSome then 0 else 1

/-! ### What parts of calls do -/

/-- The messages have been added to the log of the active context, and the clock has been read `n`
times. Nothing else has happened, but that the context may have been asked for its session. -/
def Wrote (ms : List Message) (n : Nat) (r r' : Recorder) : Prop :=
  ∃ uses : List Registry.Use, (∀ u ∈ uses, r.registry.resolve u.contextId = r.context)
    ∧ uses.flatMap (·.messages) = ms
    ∧ r' = { r with registry := r.registry.useAll uses, readings := r.readings + n }

namespace Wrote

/-- To do nothing writes nothing and reads no time. -/
theorem refl (r : Recorder) : Wrote [] 0 r r :=
  ⟨[], List.forall_mem_nil _, rfl, rfl⟩

/-- Writing messages does not change the context that is active. -/
theorem context (h : Wrote ms n r r') : r'.context = r.context := by
  obtain ⟨uses, -, -, rfl⟩ := h
  simp only [Recorder.context, Registry.resolve, Registry.defaultContext_useAll]

/-- What is written in two steps is written in one, and the times that are read add up. -/
theorem trans (h : Wrote ms n r r') (h' : Wrote ms' n' r' r'') :
    Wrote (ms ++ ms') (n + n') r r'' := by
  have hcontext := h.context
  obtain ⟨uses, huses, rfl, rfl⟩ := h
  obtain ⟨uses', huses', rfl, rfl⟩ := h'
  refine ⟨uses ++ uses', ?_, List.flatMap_append, ?_⟩
  · refine List.forall_mem_append.2 ⟨huses, fun u hu => ?_⟩
    have hresolve := huses' u hu
    simp only [Registry.resolve, Registry.defaultContext_useAll, hcontext] at hresolve
    exact hresolve
  · simp only [Registry.useAll, List.foldl_append, Nat.add_assoc]

/-- The logs after messages have been added. -/
theorem logOf (h : Wrote ms n r r') (id : String) :
    r'.registry.logOf id = r.registry.logOf id ++ if id = r.context then ms else [] := by
  obtain ⟨uses, huses, rfl, rfl⟩ := h
  exact Registry.logOf_useAll_of_resolve huses id

/-- What has been written stands at the end of the log of the active context. -/
theorem log (h : Wrote ms n r r') : r'.log = r.log ++ ms := by
  rw [Recorder.log, h.logOf, h.context, if_pos rfl]
  rfl

/-- The labels of the next test do not depend on what is written meanwhile. -/
theorem testLabels (h : Wrote ms n r r') : r'.testLabels = r.testLabels := by
  have hcontext := h.context
  obtain ⟨uses, -, -, rfl⟩ := h
  simp only [Recorder.testLabels, suiteLabels, hcontext]

/-- The times that are read next come after those that have been read. -/
theorem timeAfter (h : Wrote ms n r r') (k : Nat) (t : Option Int) :
    r'.timeAfter k t = r.timeAfter (n + k) t := by
  obtain ⟨uses, -, -, rfl⟩ := h
  simp only [Recorder.timeAfter, Nat.add_assoc]

/-- Writing messages does not change the package of any context. -/
theorem packages (h : Wrote ms n r r') : r'.packages = r.packages := by
  obtain ⟨uses, -, -, rfl⟩ := h
  rfl

/-- It does not matter for this which packages there are. -/
private theorem setPackages (h : Wrote ms n r r') (packages : String → Option String) :
    Wrote ms n { r with packages := packages } { r' with packages := packages } := by
  obtain ⟨uses, huses, hmessages, rfl⟩ := h
  exact ⟨uses, huses, hmessages, rfl⟩

end Wrote

/-- A push that returns has written its message, and has read no time. -/
theorem wrote_push {m : Message} (h : Runs (push m) r () r') : Wrote [m] 0 r r' := by
  simp only [Runs, push] at h
  cases hchecked : m.checked with
  -- a message with a defect is not pushed
  | error d =>
    rw [hchecked] at h
    cases h
  | ok m' =>
    obtain ⟨-, rfl⟩ := (Runs.change _ r).unique ((congrFun (by rw [hchecked]) r).trans h)
    obtain ⟨-, hsame⟩ := Message.checked_eq_ok_iff.1 hchecked
    rw [hsame]
    refine ⟨[.push (some r.context) m], ?_, rfl, rfl⟩
    exact List.forall_mem_singleton.2 (r.registry.resolve_some_resolve r.chosen)

/-- Asking for the session may register it, which changes no log. -/
private theorem wrote_session {s : Session} (h : Runs session r s r') :
    Wrote [] 0 r r' ∧ s.log = r.log := by
  obtain ⟨_, _, hregister, h⟩ := h.exists_of_bind
  obtain ⟨-, rfl⟩ := (Runs.change _ r).unique hregister
  obtain ⟨_, _, hget, h⟩ := h.exists_of_bind
  obtain ⟨rfl, rfl⟩ := (Runs.get _).unique hget
  obtain ⟨rfl, rfl⟩ := (Runs.pure _ _).unique h
  -- to ask for it is a use of the registry that pushes nothing
  have hwrote : Wrote [] 0 r { r with registry := r.registry.register (some r.context) } :=
    ⟨[.getOrCreate (some r.context)],
      List.forall_mem_singleton.2 (r.registry.resolve_some_resolve r.chosen), rfl, rfl⟩
  refine ⟨hwrote, ?_⟩
  have hlog := hwrote.log
  rw [List.append_nil] at hlog
  -- the context has been resolved once, and resolving it again changes nothing
  rw [← hlog, Registry.log_sessionOf]
  exact congrArg _ (Registry.resolve_some_resolve _ r.chosen)

/-- Whether a span is pending is read off the log, and asking changes nothing. -/
private theorem wrote_isPending {span : Span} {p : Bool} (h : Runs (isPending span) r p r') :
    Wrote [] 0 r r' ∧ p = r.hasPending span := by
  obtain ⟨s, r₁, hsession, h⟩ := h.exists_of_bind
  obtain ⟨rfl, rfl⟩ := (Runs.pure _ _).unique h
  obtain ⟨hwrote, hlog⟩ := wrote_session hsession
  exact ⟨hwrote, by rw [Session.isPending, hlog, hasPending]⟩

/-- A time that is given is taken as it is; otherwise one is read from the clock. -/
private theorem wrote_time {t : Option Int} {v : Int} (h : Runs (time t) r v r') :
    Wrote [] (readingsFor t) r r' ∧ v = r.timeAfter 0 t := by
  cases t with
  | some t =>
    obtain ⟨rfl, rfl⟩ := (Runs.pure t r).unique h
    exact ⟨.refl r, rfl⟩
  | none =>
    cases h
    exact ⟨⟨[], List.forall_mem_nil _, rfl, rfl⟩, rfl⟩

/-- The messages that start a test: its start, and all its labels. -/
def startMessages (r : Recorder) (name : String) (start : Int) : List Message :=
  [.testStart name start, .entry (.metadata
    (r.testLabels ++ ((Chronicle.currentFeature r.log).map LabelName.feature.label).toList) [])]

/-- The start of a test is no feature. -/
private theorem currentFeature_snoc {m : Message} (hm : m.feature? = none) (log : List Message) :
    Chronicle.currentFeature (log ++ [m]) = Chronicle.currentFeature log := by
  simp [Chronicle.currentFeature, hm]

/-! ### Messages one after another -/

/-- The first rule that one of several messages breaks. -/
def firstDefect (ms : List Message) : Option Defect :=
  ms.findSome? Message.defect?

/-- The messages before the first one that breaks a rule. -/
def soundPart (ms : List Message) : List Message :=
  ms.takeWhile fun m => m.Sound

/-- The first defect among more messages is the first one of the earlier part that has any. -/
private theorem firstDefect_append (ms ms' : List Message) :
    firstDefect (ms ++ ms') = (firstDefect ms).or (firstDefect ms') :=
  List.findSome?_append

/-- After messages that break no rule, all depends on those that follow. -/
theorem soundPart_append_of_none (h : firstDefect ms = none) :
    soundPart (ms ++ ms') = ms ++ soundPart ms' := by
  apply List.takeWhile_append_of_pos
  intro m hm
  exact decide_eq_true (List.findSome?_eq_none_iff.1 h m hm)

/-- After a message that breaks a rule, nothing matters. -/
private theorem soundPart_append_of_some {d : Defect} (h : firstDefect ms = some d) :
    soundPart (ms ++ ms') = soundPart ms := by
  induction ms with
  | nil => cases h
  | cons m rest ih =>
    rw [firstDefect, List.findSome?_cons] at h
    by_cases hm : m.Sound
    · simp only [show m.defect? = none from hm] at h
      simp [soundPart, hm]
      exact ih h
    · simp [soundPart, hm]

/-- An action adds messages to the log of the active context, one after another. It fails at the
first one that breaks a rule. If there is none, it has read the clock `n` times. -/
def Adds {α : Type} (ms : List Message) (n : Nat) (act : Recording α) (r : Recorder) : Prop :=
  match act r with
  | .ok _ r' => firstDefect ms = none ∧ Wrote ms n r r'
  | .error e r' =>
    (firstDefect ms).map RecordError.defect = some e ∧ ∃ k, Wrote (soundPart ms) k r r'

namespace Adds

variable {α β : Type} {act : Recording α} {a : α}

/-- An action that returns adds its messages if none of them breaks a rule. -/
private theorem of_runs (hruns : Runs act r a r') (hms : firstDefect ms = none)
    (hwrote : Wrote ms n r r') :
    Adds ms n act r := by
  rw [Adds, show act r = .ok a r' from hruns]
  exact ⟨hms, hwrote⟩

/-- An action that returns and writes nothing adds nothing. -/
private theorem of_runs_nil (hruns : Runs act r a r') (hwrote : Wrote [] n r r') :
    Adds [] n act r :=
  of_runs hruns rfl hwrote

/-- What an action that returns adds, it has written. -/
private theorem wrote (h : Adds ms n act r) (hruns : Runs act r a r') : Wrote ms n r r' := by
  rw [Adds, show act r = .ok a r' from hruns] at h
  exact h.2

/-- To return adds nothing. -/
theorem pure (a : α) (r : Recorder) : Adds [] 0 (Pure.pure a : Recording α) r :=
  of_runs_nil (.pure a r) (.refl r)

/-- What is done next may depend on the state. -/
theorem get {next : Recorder → Recording α} (h : Adds ms n (next r) r) :
    Adds ms n (MonadState.get >>= next) r :=
  h

/-- What follows adds its messages only if none of the first ones breaks a rule. -/
theorem bind {next : α → Recording β} {l : List Message} {k : Nat} (h : Adds ms n act r)
    (hnext : ∀ a r₁, Runs act r a r₁ → Adds l k (next a) r₁) :
    Adds (ms ++ l) (n + k) (act >>= next) r := by
  rw [Adds] at h
  cases hact : act r with
  | error e r₁ =>
    simp only [hact] at h
    obtain ⟨hdefect, j, hwrote⟩ := h
    obtain ⟨d, hd, rfl⟩ := Option.map_eq_some_iff.1 hdefect
    rw [Adds, error_of_bind hact]
    -- the first action fails, so nothing of the second one comes about
    show _ ∧ _
    rw [firstDefect_append, soundPart_append_of_some hd, hd]
    exact ⟨rfl, j, hwrote⟩
  | ok a r₁ =>
    simp only [hact] at h
    obtain ⟨hnone, hwrote⟩ := h
    -- the first action returns, and then the second one decides
    have hrest := hnext a r₁ hact
    rw [Adds] at hrest ⊢
    rw [(show Runs act r a r₁ from hact).bind_eq, firstDefect_append, hnone, Option.none_or,
      soundPart_append_of_none hnone]
    cases hlast : next a r₁ with
    | ok b r₂ =>
      simp only [hlast] at hrest ⊢
      exact ⟨hrest.1, hwrote.trans hrest.2⟩
    | error e r₂ =>
      simp only [hlast] at hrest ⊢
      obtain ⟨hdefect, j, hwrote'⟩ := hrest
      exact ⟨hdefect, n + j, hwrote.trans hwrote'⟩

/-- What an action returns has no part in this. -/
theorem map (h : Adds ms n act r) (f : α → β) :
    Adds ms n (act >>= fun a => Pure.pure (f a)) r := by
  have hboth := h.bind fun a r₁ _ => Adds.pure (f a) r₁
  rwa [List.append_nil, Nat.add_zero] at hboth

end Adds

/-- A push adds one message, or fails with its defect and adds nothing. -/
theorem adds_push (m : Message) (r : Recorder) : Adds [m] 0 (push m) r := by
  cases hm : m.defect? with
  -- a sound message is pushed
  | none =>
    have hruns : Runs (push m) r () { r with registry := r.registry.push (some r.context) m } := by
      rw [Runs, push, Message.checked, hm]
      rfl
    exact .of_runs hruns (by simp [firstDefect, hm]) (wrote_push hruns)
  -- a message with a defect is reported, and nothing is pushed
  | some d =>
    have herror : push m r = .error (.defect d) r := by
      rw [push, Message.checked, hm]
      rfl
    have hbroken : ¬m.Sound := by simp [Message.Sound, hm]
    rw [Adds, herror]
    refine ⟨by simp [firstDefect, hm], 0, ?_⟩
    -- the part of the messages before the broken one is empty
    simp only [soundPart, List.takeWhile_cons, hbroken, decide_false, Bool.false_eq_true, if_false]
    exact .refl r

/-- To ask for the session adds nothing. -/
private theorem adds_session (r : Recorder) : Adds [] 0 session r := by
  have hruns : Runs session r _ _ := rfl
  exact .of_runs_nil hruns (wrote_session hruns).1

/-- To ask what is pending adds nothing. -/
theorem adds_isPending (span : Span) (r : Recorder) : Adds [] 0 (isPending span) r := by
  have hruns : Runs (isPending span) r _ _ := rfl
  exact .of_runs_nil hruns (wrote_isPending hruns).1

/-- To ask for the time reads the clock at most once, and adds nothing. -/
private theorem adds_time (t : Option Int) (r : Recorder) : Adds [] (readingsFor t) (time t) r := by
  have hruns : ∃ v r', Runs (time t) r v r' := by cases t <;> exact ⟨_, _, rfl⟩
  obtain ⟨v, r', hruns⟩ := hruns
  exact .of_runs_nil hruns (wrote_time hruns).1

/-- A test is started by its start and then by the labels of where it stands. -/
private theorem adds_startTest (name : String) (start : Option Int) (r : Recorder) :
    Adds (r.startMessages name (r.timeAfter 0 start)) (readingsFor start)
      (startTest name start) r := by
  apply (adds_time start r).bind (l := r.startMessages name (r.timeAfter 0 start)) (k := 0)
  intro t r₁ htime
  -- the clock is read first, if no time is given
  obtain ⟨hwrote₁, rfl⟩ := wrote_time htime
  apply (adds_push _ r₁).bind (k := 0)
  intro _ r₂ hstart
  have hstarted := hwrote₁.trans (wrote_push hstart)
  apply Adds.get
  apply (adds_session r₂).bind (k := 0)
  intro s r₃ hsession
  -- the labels are read after the start has been added, which changes none of them
  have hfeature : s.currentFeature = Chronicle.currentFeature r.log := by
    rw [Session.currentFeature, (wrote_session hsession).2, hstarted.log]
    exact currentFeature_snoc rfl r.log
  rw [hstarted.testLabels, hfeature]
  exact adds_push _ r₃

/-- The messages that start a test are the same after something has been asked for. -/
theorem Wrote.startMessages (h : Wrote [] n r r') (name : String) (start : Int) :
    r'.startMessages name start = r.startMessages name start := by
  rw [Recorder.startMessages, Recorder.startMessages, h.testLabels, h.log, List.append_nil]

/-- A test is ended by one message, at the time that is given or read. -/
theorem adds_endTest (status : Status) (stage : Option Stage) (stop duration : Option Int)
    (details : Option StatusDetails) (r : Recorder) :
    Adds [.testEnd ⟨status, r.timeAfter 0 stop, stage, duration, details⟩] (readingsFor stop)
      (endTest status stage stop duration details) r := by
  apply (adds_time stop r).bind (k := 0)
  intro t r₁ htime
  obtain ⟨-, rfl⟩ := wrote_time htime
  exact adds_push _ r₁

/-! ### Calls -/

/-- What can be asked of a recorder. -/
inductive Call where
  | useContext (contextId : Option String)
  /-- Asks for the session of the active context. -/
  | session
  | startSuite (name : String) (isFeature : Bool)
  | endSuite
  | startTest (name : String) (start : Option Int)
  | addTestInfo (fullName : String) (file : Option String)
  | addLabels (labels : List Label)
  | addParameters (parameters : List Parameter)
  | endTest (status : Status) (stage : Option Stage) (stop duration : Option Int)
      (details : Option StatusDetails)
  | passTest (stop duration : Option Int)
  | failTest (name : String) (status : Status) (details : Option StatusDetails)
      (start stop duration : Option Int)
  | skipTest (name : Option String) (start : Option Int)
  | markRetried
  | startStep (name : String) (start : Option Int)
  | endStep (status : Status) (stop : Option Int) (details : Option StatusDetails)
  | startHook (name : String) (kind : Option HookKind) (start : Option Int)
  | endHook (name : String) (error : Option StatusDetails) (kind : Option HookKind)
      (start stop duration : Option Int)
  | attach (name : String) (content : Bytes) (contentType : String)
  | attachText (name text contentType : String)
  deriving DecidableEq, Repr, Inhabited

namespace Call

/-- Asks a recorder. Only about hooks does it answer something. -/
def perform : Call → Recording (Option Bool)
  | .useContext contextId => do Recorder.useContext contextId; return none
  | .session => do let _ ← Recorder.session; return none
  | .startSuite name isFeature => do Recorder.startSuite name isFeature; return none
  | .endSuite => do Recorder.endSuite; return none
  | .startTest name start => do Recorder.startTest name start; return none
  | .addTestInfo fullName file => do Recorder.addTestInfo fullName file; return none
  | .addLabels labels => do Recorder.addLabels labels; return none
  | .addParameters parameters => do Recorder.addParameters parameters; return none
  | .endTest status stage stop duration details => do
    Recorder.endTest status stage stop duration details
    return none
  | .passTest stop duration => do Recorder.passTest stop duration; return none
  | .failTest name status details start stop duration => do
    Recorder.failTest name status details start stop duration
    return none
  | .skipTest name start => do Recorder.skipTest name start; return none
  | .markRetried => do Recorder.markRetried; return none
  | .startStep name start => do Recorder.startStep name start; return none
  | .endStep status stop details => do Recorder.endStep status stop details; return none
  | .startHook name kind start => do return some (← Recorder.startHook name kind start)
  | .endHook name error kind start stop duration => do
    return some (← Recorder.endHook name error kind start stop duration)
  | .attach name content contentType => do Recorder.attach name content contentType; return none
  | .attachText name text contentType => do Recorder.attachText name text contentType; return none

/-- The answer to a call that returns. -/
def answer (r : Recorder) : Call → Option Bool
  | .startHook .. | .endHook .. => some (r.hasPending .suite)
  | _ => none

/-- The context of the calls that follow. -/
def chosenAfter (chosen : Option String) : Call → Option String
  | .useContext contextId => contextId
  | _ => chosen

/-- The names of the open suites after a call in their context. -/
def namesAfter (names : List String) : Call → List String
  | .startSuite name _ => names ++ [name]
  | .endSuite => names.dropLast
  | _ => names

/-- The package that a call names: that of a file, if there is one. -/
def package? : Call → Option String
  | .addTestInfo _ (some file) => if file = "" then none else packageOf (Path.ofText file)
  | _ => none

/-- The messages that a call adds to the log of the active context. -/
def messages (r : Recorder) : Call → List Message
  | .useContext _ | .session => []
  | .startSuite name isFeature => [.suiteStart name isFeature]
  | .endSuite => [.suiteEnd]
  | .startTest name start => r.startMessages name (r.timeAfter 0 start)
  | .addTestInfo fullName file =>
    .testInfo fullName :: if r.hasPending .test
      then ((addTestInfo fullName file).package?.map fun package =>
        .entry (.metadata [LabelName.package.label package] [])).toList
      else []
  | .addLabels labels => if labels.isEmpty then [] else [.entry (.metadata labels [])]
  | .addParameters parameters =>
    if parameters.isEmpty then [] else [.entry (.metadata [] parameters)]
  | .endTest status stage stop duration details =>
    [.testEnd ⟨status, r.timeAfter 0 stop, stage, duration, details⟩]
  | .passTest stop duration =>
    [.testEnd ⟨.passed, r.timeAfter 0 stop, some .finished, duration, none⟩]
  | .failTest name status details start stop duration =>
    if r.hasPending .test
    then [.testEnd ⟨status, r.timeAfter 0 stop, some .finished, duration, details⟩]
    else r.startMessages name (r.timeAfter 0 start) ++
      [.testEnd ⟨status, r.timeAfter (readingsFor start) stop, some .finished, duration, details⟩]
  | .skipTest name start =>
    if r.hasPending .test
    then [.testEnd ⟨.skipped, r.timeAfter 0 none, some .pending, none, none⟩]
    else r.startMessages (name.getD "") (r.timeAfter 0 start)
      ++ [.testEnd ⟨.skipped, r.timeAfter (readingsFor start) none, some .pending, none, none⟩]
  | .markRetried => [.entry (.metadata [LabelName.tag.label "retried"] [])]
  | .startStep name start => [.entry (.stepStart name (r.timeAfter 0 start))]
  | .endStep status stop details => [.entry (.stepStop status (r.timeAfter 0 stop) details)]
  | .startHook name kind start =>
    if r.hasPending .suite
    then [.hookStart name (kind.getD (hookKindOf name)) (r.timeAfter 0 start)] else []
  | .endHook name error kind start stop duration =>
    let kind := kind.getD (hookKindOf name)
    let start := r.timeAfter (readingsFor stop) start
    let stop := r.timeAfter 0 stop
    if !r.hasPending .suite then []
    else if error.isSome && !r.hasPending .test && !r.hasPending .hook then
      r.startMessages name start ++ [.hookStart name kind start,
        .hookEnd ⟨.broken, stop, duration, error⟩,
        .testEnd ⟨.broken, stop, some .finished, duration, none⟩]
    else
      (if error.isSome && !r.hasPending .hook then [.hookStart name kind start] else [])
        ++ [.hookEnd ⟨if error.isSome then .broken else .passed, stop, duration, error⟩]
  | .attach name content contentType =>
    [.entry (.attachment { name := name, content := content, contentType := contentType })]
  | .attachText name text contentType =>
    [.entry (.attachment
      { name := name, content := Utf8.encode text.toList, contentType := contentType })]

/-- What a call that returns has done. -/
structure Done (call : Call) (r : Recorder) (answer : Option Bool) (r' : Recorder) : Prop where
  answer : answer = call.answer r
  uses : ∃ uses, (∀ u ∈ uses, r.registry.resolve u.contextId = r.context)
    ∧ uses.flatMap (·.messages) = call.messages r ∧ r'.registry = r.registry.useAll uses
  chosen : r'.chosen = call.chosenAfter r.chosen
  suiteNames : r'.suiteNames = fun id =>
    if id = r.context then call.namesAfter (r.suiteNames id) else r.suiteNames id
  packages : r'.packages = fun id =>
    if id = r.context then call.package?.or (r.packages id) else r.packages id
  language : r'.language = r.language
  framework : r'.framework = r.framework

/-- Most calls do nothing but add messages. -/
private theorem done_of_wrote {call : Call} (h : Wrote (call.messages r) n r r')
    (hchosen : ∀ chosen, call.chosenAfter chosen = chosen)
    (hnames : ∀ names, call.namesAfter names = names) (hpackage : call.package? = none) :
    call.Done r (call.answer r) r' := by
  obtain ⟨uses, huses, hmessages, rfl⟩ := h
  exact
    { answer := rfl
      uses := ⟨uses, huses, hmessages, rfl⟩
      chosen := (hchosen _).symm
      suiteNames := by simp only [hnames, ite_self]
      packages := by simp only [hpackage, Option.none_or, ite_self]
      language := rfl
      framework := rfl }

/-- An action that is asked for nothing answers nothing. -/
private theorem exists_of_return {act : Recording Unit} {b a : Option Bool}
    (h : Runs (do act; return b) r a r') : a = b ∧ Runs act r () r' := by
  obtain ⟨_, _, hact, h⟩ := h.exists_of_bind
  obtain ⟨rfl, rfl⟩ := (Runs.pure _ _).unique h
  exact ⟨rfl, hact⟩

/-- A suite that has started is the innermost one that is open. -/
private theorem done_startSuite {name : String} {isFeature : Bool}
    (h : Runs (Recorder.startSuite name isFeature) r () r') :
    (startSuite name isFeature).Done r none r' := by
  obtain ⟨_, _, hchange, hpush⟩ := h.exists_of_bind
  -- the name is put on the stack before the message is pushed
  obtain ⟨-, rfl⟩ := (Runs.change _ r).unique hchange
  obtain ⟨uses, huses, hmessages, rfl⟩ := wrote_push hpush
  exact
    { answer := rfl
      uses := ⟨uses, huses, hmessages, rfl⟩
      chosen := rfl
      suiteNames := rfl
      packages := by simp only [package?, Option.none_or, ite_self]
      language := rfl
      framework := rfl }

/-- A suite that has ended is taken off those that are open, with its message before that. -/
private theorem done_endSuite (h : Runs Recorder.endSuite r () r') : endSuite.Done r none r' := by
  obtain ⟨_, r₁, hpush, hchange⟩ := h.exists_of_bind
  have hwrote := wrote_push hpush
  have hcontext := hwrote.context
  -- only then the name goes
  obtain ⟨-, rfl⟩ := (Runs.change _ r₁).unique hchange
  obtain ⟨uses, huses, hmessages, rfl⟩ := hwrote
  exact
    { answer := rfl
      uses := ⟨uses, huses, hmessages, rfl⟩
      chosen := rfl
      suiteNames := by simp only [hcontext]; rfl
      packages := by simp only [package?, Option.none_or, ite_self]
      language := rfl
      framework := rfl }

/-- A package is told to the pending test, if there is one. -/
private theorem wrote_package {package : String}
    (h : Runs (do
      if ← Recorder.isPending .test then
        push (.entry (.metadata [LabelName.package.label package] []))) r () r') :
    Wrote (if r.hasPending .test
      then [.entry (.metadata [LabelName.package.label package] [])] else []) 0 r r' := by
  obtain ⟨p, r₁, hpending, h⟩ := h.exists_of_bind
  obtain ⟨hwrote, rfl⟩ := wrote_isPending hpending
  cases hp : r.hasPending .test with
  | true =>
    simp only [hp, if_true] at h ⊢
    exact hwrote.trans (wrote_push h)
  | false =>
    simp only [hp, Bool.false_eq_true, if_false] at h ⊢
    obtain ⟨-, rfl⟩ := (Runs.pure _ _).unique h
    exact hwrote

/-- The full name goes to the log; a file also names the package of the context. -/
private theorem done_addTestInfo {fullName : String} {file : Option String}
    (h : Runs (Recorder.addTestInfo fullName file) r () r') :
    (addTestInfo fullName file).Done r none r' := by
  obtain ⟨_, r₁, hpush, h⟩ := h.exists_of_bind
  have hinfo := wrote_push hpush
  -- without a package the message is all there is
  have hplain : (addTestInfo fullName file).package? = none →
      Runs (pure () : Recording Unit) r₁ () r' → (addTestInfo fullName file).Done r none r' := by
    intro hpackage h
    obtain ⟨-, rfl⟩ := (Runs.pure _ _).unique h
    have hmessages : (addTestInfo fullName file).messages r = [.testInfo fullName] := by
      simp only [messages, hpackage, Option.map_none, Option.toList_none, ite_self]
    exact done_of_wrote (hmessages ▸ hinfo) (fun _ => rfl) (fun _ => rfl) hpackage
  split at h
  · exact hplain rfl h
  · exact hplain rfl h
  -- with a file its package is remembered, and told to a pending test
  · rename_i file hempty _
    have hpackage : (addTestInfo fullName (some file)).package? = packageOf (Path.ofText file) :=
      if_neg hempty
    cases hnamed : packageOf (Path.ofText file) with
    | none =>
      simp only [hnamed] at h
      cases h
    | some package =>
      simp only [hnamed] at h
      obtain ⟨_, _, hchange, h⟩ := h.exists_of_bind
      obtain ⟨-, rfl⟩ := (Runs.change _ r₁).unique hchange
      have hrest := wrote_package h
      -- the name of a test neither starts nor ends one
      have hsame : Chronicle.isPending .test r₁.log = r.hasPending .test := by
        rw [hinfo.log, isPending_snoc]
        rfl
      have hread : ({ r₁ with packages := fun id =>
          if id = r₁.context then some package else r₁.packages id } : Recorder).hasPending .test
          = r.hasPending .test := hsame
      rw [hread] at hrest
      -- the package could as well have been set before the first message
      have hall := (hinfo.setPackages _).trans hrest
      rw [hinfo.context, hinfo.packages] at hall
      obtain ⟨uses, huses, hmessages, rfl⟩ := hall
      exact
        { answer := rfl
          uses := ⟨uses, huses, by
            rw [hmessages, messages, hpackage, hnamed]
            cases r.hasPending .test <;> rfl, rfl⟩
          chosen := rfl
          suiteNames := by simp only [namesAfter, ite_self]
          packages := by simp only [hpackage, hnamed, Option.some_or]
          language := rfl
          framework := rfl }

/-- No labels add no message. -/
private theorem adds_addLabels (labels : List Label) (r : Recorder) :
    Adds ((addLabels labels).messages r) 0 (Recorder.addLabels labels) r := by
  cases hempty : labels.isEmpty with
  | true =>
    simp only [Recorder.addLabels, messages, hempty, if_true]
    exact .pure () r
  | false =>
    simp only [Recorder.addLabels, messages, hempty, Bool.false_eq_true, if_false]
    exact adds_push _ r

/-- No parameters add no message. -/
private theorem adds_addParameters (parameters : List Parameter) (r : Recorder) :
    Adds ((addParameters parameters).messages r) 0 (Recorder.addParameters parameters) r := by
  cases hempty : parameters.isEmpty with
  | true =>
    simp only [Recorder.addParameters, messages, hempty, if_true]
    exact .pure () r
  | false =>
    simp only [Recorder.addParameters, messages, hempty, Bool.false_eq_true, if_false]
    exact adds_push _ r

/-- A test that ends is started first if none is pending. -/
private theorem adds_failTest (name : String) (status : Status) (stage : Option Stage)
    (start stop duration : Option Int) (details : Option StatusDetails) (r : Recorder) :
    ∃ n, Adds (if r.hasPending .test
        then [.testEnd ⟨status, r.timeAfter 0 stop, stage, duration, details⟩]
        else r.startMessages name (r.timeAfter 0 start)
          ++ [.testEnd ⟨status, r.timeAfter (readingsFor start) stop, stage, duration, details⟩]) n
      (do
        if !(← isPending .test) then Recorder.startTest name start
        Recorder.endTest status stage stop duration details) r := by
  cases hp : r.hasPending .test with
  | true =>
    -- the test has been started, so only its end is missing
    refine ⟨0 + readingsFor stop, ?_⟩
    apply (adds_isPending .test r).bind
    intro p r₁ hpending
    obtain ⟨hwrote, rfl⟩ := wrote_isPending hpending
    have hend := adds_endTest status stage stop duration details r₁
    rw [hwrote.timeAfter] at hend
    simp only [hp, Bool.not_true, Bool.false_eq_true, if_false]
    exact hend
  | false =>
    -- the start is made up for first, and the clock is read for it first
    refine ⟨0 + (readingsFor start + readingsFor stop), ?_⟩
    apply (adds_isPending .test r).bind
    intro p r₁ hpending
    obtain ⟨hwrote, rfl⟩ := wrote_isPending hpending
    simp only [hp, Bool.not_false, if_true]
    have hstart := adds_startTest name start r₁
    rw [hwrote.timeAfter, hwrote.startMessages] at hstart
    apply hstart.bind
    intro _ r₂ hstarted
    have hend := adds_endTest status stage stop duration details r₂
    -- the time of the end is counted from before the call, not from after the start
    rw [(hstart.wrote hstarted).timeAfter, hwrote.timeAfter, Nat.zero_add, Nat.add_zero] at hend
    exact hend

/-- A test that is skipped needs a name if none is pending. -/
private theorem adds_skipTest (name : Option String) (start : Option Int) (r : Recorder)
    (hname : name.isSome || r.hasPending .test) :
    ∃ n, Adds ((skipTest name start).messages r) n (Recorder.skipTest name start) r := by
  cases name with
  -- with a name it goes like a test that fails
  | some name => exact adds_failTest name .skipped (some .pending) start none none none r
  | none =>
    have hp : r.hasPending .test = true := hname
    -- without one there is a test to end
    refine ⟨0 + readingsFor none, ?_⟩
    simp only [messages, hp, if_true]
    apply (adds_isPending .test r).bind
    intro p r₁ hpending
    obtain ⟨hwrote, rfl⟩ := wrote_isPending hpending
    have hend := adds_endTest .skipped (some .pending) none none none r₁
    rw [hwrote.timeAfter] at hend
    simp only [hp, Bool.not_true, Bool.false_eq_true, if_false]
    exact hend

/-- A hook starts only where a suite is pending. -/
private theorem adds_startHook (name : String) (kind : Option HookKind) (start : Option Int)
    (r : Recorder) :
    ∃ n, Adds ((startHook name kind start).messages r) n
      (Recorder.startHook name kind start) r := by
  cases hp : r.hasPending .suite with
  -- in a suite the clock is read and the start is pushed
  | true =>
    refine ⟨0 + (readingsFor start + 0), ?_⟩
    simp only [messages, hp, if_true]
    apply (adds_isPending .suite r).bind
    intro p r₁ hpending
    obtain ⟨hwrote, rfl⟩ := wrote_isPending hpending
    simp only [hp, if_true]
    apply (adds_time start r₁).bind
    intro t r₂ htime
    obtain ⟨-, rfl⟩ := wrote_time htime
    rw [hwrote.timeAfter]
    exact (adds_push _ r₂).map fun _ => true
  | false =>
    -- outside of any suite not even the clock is read
    refine ⟨0 + 0, ?_⟩
    simp only [messages, hp, Bool.false_eq_true, if_false]
    apply (adds_isPending .suite r).bind
    intro p r₁ hpending
    obtain ⟨-, rfl⟩ := wrote_isPending hpending
    simp only [hp, Bool.false_eq_true, if_false]
    exact .pure false r₁

/-- A hook that fails with nothing open is a test of its own. -/
private theorem adds_brokenHook {r₁ : Recorder} {k : Nat} (hwrote : Wrote [] k r r₁) (name : String)
    (details : Option StatusDetails) (kind : HookKind) (start duration : Option Int) (stop : Int) :
    Adds (r.startMessages name (r.timeAfter k start)
        ++ [.hookStart name kind (r.timeAfter k start), .hookEnd ⟨.broken, stop, duration, details⟩,
          .testEnd ⟨.broken, stop, some .finished, duration, none⟩]) (readingsFor start)
      (do
        let start ← time start
        Recorder.startTest name (some start)
        push (.hookStart name kind start)
        push (.hookEnd ⟨.broken, stop, duration, details⟩)
        Recorder.endTest .broken (some .finished) (some stop) duration none
        return true) r₁ := by
  apply (adds_time start r₁).bind (l := r.startMessages name (r.timeAfter k start) ++ _) (k := 0)
  intro t r₂ htime
  obtain ⟨hwrote₂, rfl⟩ := wrote_time htime
  have htimed := hwrote.trans hwrote₂
  -- the times have been read before, so the messages that follow read no clock
  have hstart := adds_startTest name (some (r.timeAfter k start)) r₂
  rw [htimed.startMessages] at hstart
  simp only [hwrote.timeAfter, Nat.add_zero]
  apply hstart.bind (k := 0)
  intro _ r₃ _
  apply (adds_push _ r₃).bind (k := 0)
  intro _ r₄ _
  apply (adds_push _ r₄).bind (k := 0)
  intro _ r₅ _
  exact (adds_endTest .broken (some .finished) (some stop) duration none r₅).map fun _ => true

/-- A hook that ends adds its end, and a made-up test if it has failed. -/
private theorem adds_endHook (name : String) (error : Option StatusDetails) (kind : Option HookKind)
    (start stop duration : Option Int) (r : Recorder) :
    ∃ n, Adds ((endHook name error kind start stop duration).messages r) n
      (Recorder.endHook name error kind start stop duration) r := by
  -- all that is asked of the session is asked before anything is added to its log
  have hasked : ∀ s r₁, Runs Recorder.session r s r₁ → Wrote [] 0 r r₁
      ∧ ∀ span, s.isPending span = r.hasPending span := by
    intro s r₁ hsession
    obtain ⟨hwrote, hlog⟩ := wrote_session hsession
    exact ⟨hwrote, fun span => by rw [Session.isPending, hlog, hasPending]⟩
  cases hp : r.hasPending .suite with
  -- outside of any suite nothing is asked further
  | false =>
    refine ⟨0 + 0, ?_⟩
    simp only [messages, hp, Bool.not_false, if_true]
    apply (adds_session r).bind
    intro s r₁ hsession
    obtain ⟨-, hpending⟩ := hasked s r₁ hsession
    simp only [hpending, hp, Bool.not_false, if_true]
    exact .pure false r₁
  | true =>
    -- the clock is read for a start only if the hook has none
    refine ⟨0 + (readingsFor stop
      + if error.isSome && !r.hasPending .hook then readingsFor start else 0), ?_⟩
    simp only [messages, hp, Bool.not_true, Bool.false_eq_true, if_false]
    apply (adds_session r).bind (l := ite _ _ _)
    intro s r₁ hsession
    obtain ⟨hwrote, hpending⟩ := hasked s r₁ hsession
    simp only [hpending, hp, Bool.not_true, Bool.false_eq_true, if_false]
    apply (adds_time stop r₁).bind (l := ite _ _ _)
    intro t r₂ htime
    obtain ⟨hwrote₂, rfl⟩ := wrote_time htime
    have htimed := hwrote.trans hwrote₂
    rw [List.append_nil, Nat.zero_add] at htimed
    rw [hwrote.timeAfter, Nat.zero_add]
    cases hmissing : (error.isSome && !r.hasPending .hook) with
    | false =>
      -- the hook was started, so only its end is added
      have hthere : (error.isSome && !r.hasPending .test && !r.hasPending .hook) = false := by
        rw [Bool.and_right_comm, hmissing, Bool.false_and]
      simp only [hthere, Bool.false_eq_true, if_false]
      exact (adds_push _ r₂).map fun _ => true
    | true =>
      rw [Bool.and_right_comm, hmissing, Bool.true_and]
      cases htest : r.hasPending .test with
      | false =>
        simp only [Bool.not_false, if_true]
        -- no test is pending either, so one is made up around the hook
        exact adds_brokenHook htimed _ _ _ _ _ _
      | true =>
        simp only [Bool.not_true, Bool.false_eq_true, if_false, if_true]
        -- a test is pending, so the missing start is added in it
        apply (adds_time start r₂).bind (k := 0)
        intro t r₃ htime
        obtain ⟨-, rfl⟩ := wrote_time htime
        rw [htimed.timeAfter, Nat.add_zero]
        apply (adds_push _ r₃).bind (k := 0)
        intro _ r₄ _
        exact (adds_push _ r₄).map fun _ => true

/-- Whether all that a call does is to add its messages. One that skips a test needs a name if no
test is pending. -/
def isPlain (r : Recorder) : Call → Bool
  | .useContext _ | .startSuite .. | .endSuite | .addTestInfo .. => false
  | .skipTest name _ => name.isSome || r.hasPending .test
  | _ => true

/-- Every call adds its messages, but for those calls that change more than a log. -/
theorem adds_messages {call : Call} (hplain : call.isPlain r = true) :
    ∃ n, Adds (call.messages r) n call.perform r := by
  cases call with
  -- these are the calls with effects of their own
  | useContext | startSuite | endSuite | addTestInfo => cases hplain
  | session => exact ⟨0, (adds_session r).map fun _ => none⟩
  | startTest name start => exact ⟨_, (adds_startTest name start r).map fun _ => none⟩
  | addLabels labels => exact ⟨0, (adds_addLabels labels r).map fun _ => none⟩
  | addParameters parameters => exact ⟨0, (adds_addParameters parameters r).map fun _ => none⟩
  | endTest status stage stop duration details =>
    exact ⟨_, (adds_endTest status stage stop duration details r).map fun _ => none⟩
  | passTest stop duration =>
    exact ⟨_, (adds_endTest .passed (some .finished) stop duration none r).map fun _ => none⟩
  | failTest name status details start stop duration =>
    obtain ⟨n, hadds⟩ := adds_failTest name status (some .finished) start stop duration details r
    exact ⟨n, hadds.map fun _ => none⟩
  | skipTest name start =>
    obtain ⟨n, hadds⟩ := adds_skipTest name start r hplain
    exact ⟨n, hadds.map fun _ => none⟩
  -- a step reads the clock for the time that is missing
  | startStep name start =>
    refine ⟨readingsFor start + 0, ?_⟩
    apply Adds.map (f := fun _ => none)
    apply (adds_time start r).bind (k := 0)
    intro t r₁ htime
    obtain ⟨-, rfl⟩ := wrote_time htime
    exact adds_push _ r₁
  | endStep status stop details =>
    refine ⟨readingsFor stop + 0, ?_⟩
    apply Adds.map (f := fun _ => none)
    apply (adds_time stop r).bind (k := 0)
    intro t r₁ htime
    obtain ⟨-, rfl⟩ := wrote_time htime
    exact adds_push _ r₁
  | startHook name kind start =>
    obtain ⟨n, hadds⟩ := adds_startHook name kind start r
    exact ⟨n, hadds.map some⟩
  | endHook name error kind start stop duration =>
    obtain ⟨n, hadds⟩ := adds_endHook name error kind start stop duration r
    exact ⟨n, hadds.map some⟩
  | markRetried | attach | attachText => exact ⟨0, (adds_push _ r).map fun _ => none⟩

/-- The answer says whether the hook has been started, which is whether a suite is pending. -/
private theorem answer_startHook {name : String} {kind : Option HookKind} {start : Option Int}
    {a : Bool} (h : Runs (Recorder.startHook name kind start) r a r') :
    a = r.hasPending .suite := by
  obtain ⟨p, r₁, hpending, h⟩ := h.exists_of_bind
  obtain ⟨-, rfl⟩ := wrote_isPending hpending
  cases hp : r.hasPending .suite with
  -- outside of any suite the answer is no
  | false =>
    simp only [hp, Bool.false_eq_true, if_false] at h
    exact ((Runs.pure _ _).unique h).1.symm
  | true =>
    simp only [hp, if_true] at h
    obtain ⟨_, _, -, h⟩ := h.exists_of_bind
    obtain ⟨_, _, -, h⟩ := h.exists_of_bind
    exact ((Runs.pure _ _).unique h).1.symm

/-- The answer says whether the hook has been ended, which is whether a suite is pending. -/
private theorem answer_endHook {name : String} {error : Option StatusDetails}
    {kind : Option HookKind} {start stop duration : Option Int} {a : Bool}
    (h : Runs (Recorder.endHook name error kind start stop duration) r a r') :
    a = r.hasPending .suite := by
  obtain ⟨s, r₁, hsession, h⟩ := h.exists_of_bind
  -- the session that is asked is the one at hand
  have hpending : s.isPending .suite = r.hasPending .suite := by
    rw [Session.isPending, (wrote_session hsession).2, hasPending]
  rw [hpending] at h
  cases hp : r.hasPending .suite with
  | false =>
    simp only [hp, Bool.not_false, if_true] at h
    exact ((Runs.pure _ _).unique h).1.symm
  | true =>
    -- every way through the rest of the call ends in the same answer
    simp only [hp, Bool.not_true, Bool.false_eq_true, if_false] at h
    obtain ⟨_, _, -, h⟩ := h.exists_of_bind
    split at h
    · obtain ⟨_, _, -, h⟩ := h.exists_of_bind
      obtain ⟨_, _, -, h⟩ := h.exists_of_bind
      obtain ⟨_, _, -, h⟩ := h.exists_of_bind
      obtain ⟨_, _, -, h⟩ := h.exists_of_bind
      obtain ⟨_, _, -, h⟩ := h.exists_of_bind
      exact ((Runs.pure _ _).unique h).1.symm
    · split at h
      · obtain ⟨_, _, -, h⟩ := h.exists_of_bind
        obtain ⟨_, _, -, h⟩ := h.exists_of_bind
        obtain ⟨_, _, -, h⟩ := h.exists_of_bind
        exact ((Runs.pure _ _).unique h).1.symm
      · obtain ⟨_, _, -, h⟩ := h.exists_of_bind
        exact ((Runs.pure _ _).unique h).1.symm

/-- Only about hooks there is an answer: whether a suite is pending. -/
private theorem answer_of_runs {call : Call} {a : Option Bool} (h : Runs call.perform r a r') :
    a = call.answer r := by
  cases call with
  | startHook =>
    obtain ⟨b, _, hact, h⟩ := h.exists_of_bind
    obtain ⟨rfl, -⟩ := (Runs.pure _ _).unique h
    exact congrArg some (answer_startHook hact)
  | endHook =>
    obtain ⟨b, _, hact, h⟩ := h.exists_of_bind
    obtain ⟨rfl, -⟩ := (Runs.pure _ _).unique h
    exact congrArg some (answer_endHook hact)
  -- asking for the session answers nothing
  | session =>
    obtain ⟨_, _, -, h⟩ := h.exists_of_bind
    exact ((Runs.pure _ _).unique h).1.symm
  -- all other calls answer nothing
  | _ => exact (exists_of_return h).1

/-- Without a name no test is skipped but a pending one. -/
theorem skipTest_eq_error (hnone : r.hasPending .test = false) (start : Option Int) :
    ∃ r', (skipTest none start).perform r = .error .unnamedSkip r' ∧ Wrote [] 0 r r' := by
  have hpending : Runs (Recorder.isPending .test) r _ _ := rfl
  obtain ⟨hwrote, hp⟩ := wrote_isPending hpending
  rw [hp, hnone] at hpending
  refine ⟨_, error_of_bind ?_ _, hwrote⟩
  rw [Recorder.skipTest, hpending.bind_eq]
  rfl

/-- A call that returns has done what is said of it. -/
theorem done {call : Call} {answer : Option Bool} (h : Runs call.perform r answer r') :
    call.Done r answer r' := by
  by_cases hplain : call.isPlain r = true
  -- a plain call does no more than add its messages
  · obtain ⟨n, hadds⟩ := adds_messages hplain
    rw [answer_of_runs h]
    exact done_of_wrote (hadds.wrote h) (fun _ => by cases call <;> trivial)
      (fun _ => by cases call <;> trivial) (by cases call <;> trivial)
  · cases call with
    | useContext contextId =>
      obtain ⟨rfl, hact⟩ := exists_of_return h
      obtain ⟨-, rfl⟩ := (Runs.change _ r).unique hact
      exact
        { answer := rfl
          uses := ⟨[], List.forall_mem_nil _, rfl, rfl⟩
          chosen := rfl
          suiteNames := by simp only [namesAfter, ite_self]
          packages := by simp only [package?, Option.none_or, ite_self]
          language := rfl
          framework := rfl }
    | startSuite name isFeature =>
      obtain ⟨rfl, hact⟩ := exists_of_return h
      exact done_startSuite hact
    | endSuite =>
      obtain ⟨rfl, hact⟩ := exists_of_return h
      exact done_endSuite hact
    | addTestInfo fullName file =>
      obtain ⟨rfl, hact⟩ := exists_of_return h
      exact done_addTestInfo hact
    | skipTest name start =>
      -- a test that is skipped without a name and without a pending test is none
      cases name with
      | some name => exact absurd rfl hplain
      | none =>
        obtain ⟨r₁, herror, -⟩ := skipTest_eq_error (Bool.eq_false_iff.2 hplain) start
        cases herror.symm.trans h
    | _ => exact absurd rfl hplain

/-! ### Hooks that end -/

/-- A hook that fails with nothing open is a test of its own, with the hook in it. -/
theorem messages_endHook_of_breaks (hbreaks : r.breaksHook = true) (name : String)
    (details : StatusDetails) (kind : Option HookKind) (start stop duration : Option Int) :
    (endHook name (some details) kind start stop duration).messages r
      = r.startMessages name (r.timeAfter (readingsFor stop) start)
        ++ [.hookStart name (kind.getD (hookKindOf name)) (r.timeAfter (readingsFor stop) start),
          .hookEnd ⟨.broken, r.timeAfter 0 stop, duration, some details⟩,
          .testEnd ⟨.broken, r.timeAfter 0 stop, some .finished, duration, none⟩] := by
  simp only [breaksHook, Bool.and_eq_true] at hbreaks
  obtain ⟨⟨hsuite, htest⟩, hhook⟩ := hbreaks
  simp only [messages, hsuite, htest, hhook, Bool.not_true, Bool.false_eq_true, if_false,
    Option.isSome_some, Bool.and_self, if_true]

/-! ### Calls within tests and suites -/

/-- Whether a call leaves suites and tests as they are: it starts and ends none of them. A hook that
fails does if a test is made up for it. -/
def isInner (r : Recorder) : Call → Bool
  | .startSuite .. | .endSuite | .startTest .. | .endTest .. | .passTest .. | .failTest ..
  | .skipTest .. => false
  | .endHook _ (some _) .. => !r.breaksHook
  | _ => true

/-- An inner call adds nothing but inner messages. -/
theorem isInner_of_mem_messages {call : Call} (hcall : call.isInner r = true) :
    ∀ m ∈ call.messages r, m.isInner = true := by
  cases call with
  -- these calls are not inner ones
  | startSuite | endSuite | startTest | endTest | passTest | failTest | skipTest => cases hcall
  | useContext | session => exact List.forall_mem_nil _
  | markRetried | startStep | endStep | attach | attachText => exact List.forall_mem_singleton.2 rfl
  | addTestInfo fullName file =>
    refine List.forall_mem_cons.2 ⟨rfl, ?_⟩
    split
    · cases (addTestInfo fullName file).package? with
      | none => exact List.forall_mem_nil _
      | some package => exact List.forall_mem_singleton.2 rfl
    · exact List.forall_mem_nil _
  | addLabels | addParameters =>
    simp only [messages]
    split
    · exact List.forall_mem_nil _
    · exact List.forall_mem_singleton.2 rfl
  | startHook =>
    simp only [messages]
    split
    · exact List.forall_mem_singleton.2 rfl
    · exact List.forall_mem_nil _
  -- the end of a hook is inner unless it makes up a test
  | endHook name error kind start stop duration =>
    simp only [messages]
    split
    · exact List.forall_mem_nil _
    · -- no test is made up, since there is no error or the hook does not break
      rename_i hsuite
      have hfalse : (error.isSome && !r.hasPending .test && !r.hasPending .hook) = false := by
        cases error with
        | none => rfl
        | some details =>
          have hbreaks : r.breaksHook = false := by simpa [isInner] using hcall
          have hpending : r.hasPending .suite = true := by simpa using hsuite
          rwa [breaksHook, hpending, Bool.true_and] at hbreaks
      rw [hfalse, if_neg Bool.false_ne_true]
      split <;> simp [Message.isInner]

end Call

end Recorder

end Chronicle
