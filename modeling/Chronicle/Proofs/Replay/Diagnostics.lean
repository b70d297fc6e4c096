import Chronicle.Proofs.Replay.Account
import Chronicle.Proofs.Replay.Coupling
import Chronicle.Proofs.Replay.Remarks

/-!
# Diagnostics account for every message

`Answers` says what a message makes a replay remark and call, by what is open when the message is
met; `Accounts` goes through a log message by message. From it follow the totals: an entry is
applied or dropped, and as many tests are remarked upon as the log leaves without an ending. Notes
do not matter to the report: `Machine.diagnosed_of_replay` compares the replay to one without them.
-/
namespace Chronicle

/-! ### Kinds of remarks and messages -/

namespace Remark

def isTestFinalized : Remark → Bool
  | .testFinalized _ => true
  | _ => false

def isStepClosed : Remark → Bool
  | .stepClosed _ => true
  | _ => false

def isMessageDropped : Remark → Bool
  | .messageDropped _ => true
  | _ => false

end Remark

namespace Message

def isEntry : Message → Bool
  | .entry _ => true
  | _ => false

/-- Whether a message finalizes the open test although that has not ended. -/
def interrupts (isAfterAll : String → Bool) (isLast : Bool) : Message → Bool
  | .suiteEnd => isLast
  | m => m.finalizes isAfterAll

/-- How many tests have not ended after a message, if there are `n` before it. -/
def unended (isAfterAll : String → Bool) (isLast : Bool) (n : Nat) : Message → Nat
  | .testStart .. => 1
  | .testEnd _ => 0
  | m => if m.interrupts isAfterAll isLast then 0 else n

/-- A message is an entry, an ending, or neither. -/
private theorem entry_or_ending (m : Message) :
    (∃ e, m = .entry e) ∨ (∃ e, m = .testEnd e) ∨ m.isEntry = false ∧ m.ending? = none := by
  cases m with
  | entry e => exact .inl ⟨e, rfl⟩
  | testEnd e => exact .inr (.inl ⟨e, rfl⟩)
  | _ => exact .inr (.inr ⟨rfl, rfl⟩)

end Message

/-! ### Remarks that are due -/

namespace Session

/-- A test that is interrupted is counted once. -/
private theorem countP_unfinished (f : Remark → Bool) (s : Session) (reason : Finalization) :
    (s.unfinished reason).countP f
      = if f (.testFinalized reason) then s.executables.length else 0 := by
  rw [unfinished, List.countP_map]
  cases hf : f (.testFinalized reason) with
  | false => exact List.countP_eq_zero.2 fun test _ => by simp [hf]
  | true => exact List.countP_eq_length.2 fun test _ => hf

/-- What is said of unfinished tests is for debugging. -/
private theorem level_unfinished {s : Session} {reason : Finalization} {r : Remark}
    (hr : r ∈ s.unfinished reason) : r.level = .debug := by
  obtain ⟨test, -, rfl⟩ := List.mem_map.1 hr
  rfl

/-- So is what is said of leftovers. -/
private theorem level_leftovers {s : Session} {r : Remark} (hr : r ∈ s.leftovers) :
    r.level = .debug := by
  rcases List.mem_append.1 hr with hr | hr
  · obtain ⟨fixture, -, rfl⟩ := List.mem_map.1 hr
    rfl
  · exact level_unfinished hr

/-- A test that is left over has its remark. -/
private theorem countP_leftovers (s : Session) :
    s.leftovers.countP (·.isTestFinalized) = s.executables.length := by
  have hstopped :
      (s.fixtures.map fun _ => Remark.fixtureStopped).countP (·.isTestFinalized) = 0 := by
    simp [Remark.isTestFinalized]
  rw [leftovers, List.countP_append, hstopped, countP_unfinished]
  simp [Remark.isTestFinalized]

end Session

/-! ### Messages -/

/-- What a message makes a replay remark and call. An entry is applied or dropped, the end of a test
closes the steps that are open in it, and whatever finalizes a test that has not ended says so. -/
def Answers (m : Machine Desk ReportError) (isLast : Bool) (p : Pass Desk) (remarks : List Remark)
    (calls : List (Operation × Handle)) : Message → Prop
  | .entry e =>
    match p.session.currentTest with
    | none => remarks = [.messageDropped e.kind] ∧ calls = []
    | some test => remarks = [] ∧ calls = [(.applyMessages, test)]
  | .testEnd e =>
    match p.session.executables with
    | [] => remarks = [] ∧ calls = []
    | test :: _ =>
      remarks = List.replicate p.session.openSteps (.stepClosed e.status)
        ∧ ∃ closing, Quiet closing
          ∧ calls = List.replicate p.session.openSteps (.applyMessages, test)
            ++ (.updateTest, test) :: (.stopTest, test) :: closing
  | .hookStart name kind start =>
    Quiet calls ∧ ∃ declined,
      remarks = (if m.isAfterAll name then p.session.unfinished .afterAllHook else []) ++ declined
        ∧ (m.Declines p name kind start → declined = [.fixtureDeclined name])
        ∧ (¬m.Declines p name kind start → declined = [])
  | .suiteStart .. => Quiet calls ∧ remarks = p.session.unfinished .suiteStart
  | .testStart .. => Quiet calls ∧ remarks = p.session.unfinished .testStart
  | .suiteEnd =>
    Quiet calls ∧ remarks = if isLast then p.session.unfinished .lastMessage else []
  | .testInfo _ | .hookEnd _ => Quiet calls ∧ remarks = []

section Messages

variable {isAfterAll : String → Bool} {synchronised isLast : Bool} {p q : Pass Desk}
  {message : Message} {remarks : List Remark} {calls : List (Operation × Handle)}

/-- Each message has its remarks and its calls. -/
private theorem Machine.exists_answers (hm : p.world.report.destination = .memory)
    (hs : p.session.IsSingle)
    (h : Runs ((Desk.machine isAfterAll synchronised).dispatch isLast message) p () q) :
    ∃ remarks calls, Adds synchronised remarks calls p q
      ∧ Answers (Desk.machine isAfterAll synchronised) isLast p remarks calls message
      ∧ q.session.executables.length
        = message.unended isAfterAll isLast p.session.executables.length := by
  cases message with
  -- what a message finalizes is open before it, and nothing after it
  | suiteStart name isFeature =>
    obtain ⟨hnone, calls, hadds, hquiet⟩ := remarks_startSuite hm hs h
    exact ⟨_, calls, hadds, ⟨hquiet, rfl⟩, congrArg List.length hnone⟩
  | suiteEnd =>
    obtain ⟨hexecutables, calls, hadds, hquiet⟩ := remarks_endSuite hm hs h
    refine ⟨_, calls, hadds, ⟨hquiet, rfl⟩, ?_⟩
    rw [hexecutables]
    cases isLast <;> rfl
  | testStart name start =>
    obtain ⟨hone, calls, hadds, hquiet⟩ := remarks_startTest hm hs h
    exact ⟨_, calls, hadds, ⟨hquiet, rfl⟩, hone⟩
  | testInfo fullName =>
    obtain ⟨hsession, calls, hadds, hquiet⟩ := remarks_nameTest hm h
    exact ⟨_, calls, hadds, ⟨hquiet, rfl⟩, by rw [hsession]; rfl⟩
  | testEnd e =>
    cases hexecutables : p.session.executables with
    | nil =>
      -- there is no test to end
      replace h := runs_of_session h
      simp only [hexecutables] at h
      cases h
      refine ⟨[], [], .refl p, ?_, ?_⟩
      · simp only [Answers, hexecutables, and_self]
      · rw [hexecutables]
        rfl
    -- a step is closed for each one that is open
    | cons test rest =>
      obtain ⟨hnone, closing, hquiet, hadds⟩ := adds_endTest hm hs hexecutables h
      refine ⟨_, _, hadds, ?_, congrArg List.length hnone⟩
      simp only [Answers, hexecutables, true_and]
      exact ⟨closing, hquiet, rfl⟩
  -- only a hook for after all tests finalizes
  | hookStart name kind start =>
    obtain ⟨hexecutables, declined, ⟨calls, hadds, hquiet⟩, hdeclined⟩ := remarks_startHook hm hs h
    refine ⟨_, calls, hadds, ⟨hquiet, declined, rfl, hdeclined⟩, ?_⟩
    rw [hexecutables, apply_ite List.length]
    rfl
  | hookEnd e =>
    obtain ⟨hexecutables, calls, hadds, hquiet⟩ := remarks_endHook hm h
    exact ⟨_, calls, hadds, ⟨hquiet, rfl⟩, congrArg List.length hexecutables⟩
  -- an entry is applied to the test that is open, or dropped
  | entry e =>
    obtain ⟨hexecutables, hadds⟩ := adds_applyEntry hm h
    have hlength := congrArg List.length hexecutables
    cases hcurrent : p.session.currentTest with
    | none =>
      simp only [hcurrent] at hadds
      exact ⟨_, _, hadds, by simp [Answers, hcurrent], hlength⟩
    | some test =>
      simp only [hcurrent] at hadds
      exact ⟨_, _, hadds, by simp [Answers, hcurrent], hlength⟩

/-! ### What answers amount to -/

variable {m : Machine Desk ReportError}

/-- Apart from entries and from the ends of tests, messages apply no entry. They may interrupt a
test, and a hook may be declined. -/
private theorem Answers.of_quiet (ha : Answers m isLast p remarks calls message)
    (hentry : message.isEntry = false) (hending : message.ending? = none) :
    Quiet calls ∧ ∃ reason declined,
      remarks = (if message.interrupts m.isAfterAll isLast then p.session.unfinished reason else [])
          ++ declined
        ∧ ∀ r ∈ declined, ∃ name, r = .fixtureDeclined name := by
  cases message with
  -- what is left unfinished is remarked with the reason of the message
  | suiteStart name isFeature =>
    obtain ⟨hquiet, rfl⟩ := ha
    exact ⟨hquiet, .suiteStart, [], (List.append_nil _).symm, nofun⟩
  | suiteEnd =>
    obtain ⟨hquiet, rfl⟩ := ha
    exact ⟨hquiet, .lastMessage, [], (List.append_nil _).symm, nofun⟩
  | testStart name start =>
    obtain ⟨hquiet, rfl⟩ := ha
    exact ⟨hquiet, .testStart, [], (List.append_nil _).symm, nofun⟩
  -- a message that finalizes nothing leaves no remark
  | testInfo fullName =>
    obtain ⟨hquiet, rfl⟩ := ha
    exact ⟨hquiet, .endOfLog, [], rfl, nofun⟩
  | testEnd e => cases hending
  | hookStart name kind start =>
    obtain ⟨hquiet, declined, rfl, hyes, hno⟩ := ha
    refine ⟨hquiet, .afterAllHook, declined, rfl, ?_⟩
    -- a hook leaves a remark if it is declined, and none otherwise
    by_cases hdeclines : m.Declines p name kind start
    · rw [hyes hdeclines]
      exact List.forall_mem_singleton.2 ⟨name, rfl⟩
    · rw [hno hdeclines]
      exact nofun
  | hookEnd e =>
    obtain ⟨hquiet, rfl⟩ := ha
    exact ⟨hquiet, .endOfLog, [], rfl, nofun⟩
  | entry e => cases hentry

/-- Hooks that are declined do not count among other remarks. -/
private theorem countP_declined {f : Remark → Bool} (hf : ∀ name, f (.fixtureDeclined name) = false)
    {declined : List Remark} (h : ∀ r ∈ declined, ∃ name, r = .fixtureDeclined name) :
    declined.countP f = 0 := by
  refine List.countP_eq_zero.2 fun r hr => ?_
  obtain ⟨name, rfl⟩ := h r hr
  simp [hf name]

/-- A message that interrupts a test is remarked upon once, for the test. -/
private theorem Answers.countP_testFinalized (ha : Answers m isLast p remarks calls message) :
    remarks.countP (·.isTestFinalized)
      = if message.interrupts m.isAfterAll isLast then p.session.executables.length else 0 := by
  -- neither an entry nor an ending finalizes by being met
  rcases message.entry_or_ending with ⟨e, rfl⟩ | ⟨e, rfl⟩ | ⟨hentry, hending⟩
  · simp only [Answers] at ha
    split at ha <;> obtain ⟨rfl, -⟩ := ha <;> rfl
  · simp only [Answers] at ha
    split at ha <;> obtain ⟨rfl, -⟩ := ha
    · rfl
    · rw [List.countP_replicate]
      rfl
  -- any other message finalizes what was open, if it interrupts
  · obtain ⟨-, reason, declined, rfl, hdeclined⟩ := ha.of_quiet hentry hending
    rw [List.countP_append, countP_declined (fun _ => rfl) hdeclined, Nat.add_zero]
    split
    · exact Session.countP_unfinished _ _ _
    · rfl

/-- Quiet calls apply no entries. -/
theorem Quiet.countP_eq_zero (h : Quiet calls) : calls.countP (·.1 == .applyMessages) = 0 :=
  List.countP_eq_zero.2 fun call hcall => by simpa using h call hcall

/-- An entry is applied or dropped. Besides, only steps that are closed are applied. -/
private theorem Answers.conserved (ha : Answers m isLast p remarks calls message) :
    calls.countP (·.1 == .applyMessages) + remarks.countP (·.isMessageDropped)
      = [message].countP (·.isEntry) + remarks.countP (·.isStepClosed) := by
  -- an entry is applied or dropped; an ending closes as many steps as it says it does
  rcases message.entry_or_ending with ⟨e, rfl⟩ | ⟨e, rfl⟩ | ⟨hentry, hending⟩
  · simp only [Answers] at ha
    split at ha <;> obtain ⟨rfl, rfl⟩ := ha <;> rfl
  · simp only [Answers] at ha
    split at ha
    · obtain ⟨rfl, rfl⟩ := ha
      rfl
    · obtain ⟨rfl, closing, hquiet, rfl⟩ := ha
      simp [List.countP_append, List.countP_replicate, hquiet.countP_eq_zero,
        Remark.isMessageDropped, Remark.isStepClosed, Message.isEntry]
  -- any other message neither applies nor drops, and closes no step
  · obtain ⟨hquiet, reason, declined, rfl, hdeclined⟩ := ha.of_quiet hentry hending
    rw [hquiet.countP_eq_zero, List.countP_append, List.countP_append,
      countP_declined (fun _ => rfl) hdeclined, countP_declined (fun _ => rfl) hdeclined,
      List.countP_singleton, hentry]
    split
    · rw [Session.countP_unfinished, Session.countP_unfinished]
      rfl
    · rfl

/-- What a message leads to is said for debugging. -/
private theorem Answers.level_debug (ha : Answers m isLast p remarks calls message) :
    ∀ r ∈ remarks, r.level = .debug := by
  rcases message.entry_or_ending with ⟨e, rfl⟩ | ⟨e, rfl⟩ | ⟨hentry, hending⟩
  · simp only [Answers] at ha
    split at ha <;> obtain ⟨rfl, -⟩ := ha
    · exact List.forall_mem_singleton.2 rfl
    · exact nofun
  · simp only [Answers] at ha
    split at ha <;> obtain ⟨rfl, -⟩ := ha
    · exact nofun
    · intro r hr
      rw [List.eq_of_mem_replicate hr]
      rfl
  -- what is unfinished is remarked first, and a declined hook after it
  · obtain ⟨-, reason, declined, rfl, hdeclined⟩ := ha.of_quiet hentry hending
    intro r hr
    rcases List.mem_append.1 hr with hr | hr
    · split at hr
      · exact Session.level_unfinished hr
      · cases hr
    · obtain ⟨name, rfl⟩ := hdeclined r hr
      rfl

end Messages

/-! ### Logs -/

/-- A log has been replayed from one moment to another, message by message. At each of them the
session and the report agree on what is open, and the message has its answers. -/
inductive Accounts (isAfterAll : String → Bool) (synchronised : Bool) :
    Pass Desk → List Message → Pass Desk → List Remark → List (Operation × Handle) → Prop
  | nil (p : Pass Desk) : Accounts isAfterAll synchronised p [] p [] []
  | cons {p p' q : Pass Desk} {message : Message} {rest : List Message}
    {remarks remarks' : List Remark} {calls calls' : List (Operation × Handle)}
    (hcoupled : Coupled p.session p.world.report)
    (hruns : Runs ((Desk.machine isAfterAll synchronised).dispatch rest.isEmpty message) p () p')
    (hadds : Adds synchronised remarks calls p p')
    (hanswers : Answers (Desk.machine isAfterAll synchronised) rest.isEmpty p remarks calls message)
    (hunended : p'.session.executables.length
      = message.unended isAfterAll rest.isEmpty p.session.executables.length)
    (hrest : Accounts isAfterAll synchronised p' rest q remarks' calls') :
    Accounts isAfterAll synchronised p (message :: rest) q (remarks ++ remarks') (calls ++ calls')

namespace Accounts

variable {isAfterAll : String → Bool} {synchronised : Bool} {p q : Pass Desk}
  {log : List Message} {remarks : List Remark} {calls : List (Operation × Handle)}

/-- A log adds what its messages add, by induction on them. -/
private theorem adds (h : Accounts isAfterAll synchronised p log q remarks calls) :
    Adds synchronised remarks calls p q := by
  induction h with
  | nil p => exact .refl p
  | cons _ _ hadds _ _ _ ih => exact hadds.trans ih

/-- A log that is accounted for has been taken. -/
theorem runs (h : Accounts isAfterAll synchronised p log q remarks calls) :
    Runs ((Desk.machine isAfterAll synchronised).dispatchAll log) p () q := by
  induction h with
  | nil p => exact .pure () p
  | cons _ hruns _ _ _ _ ih => exact hruns.bind ih

/-- What is said about the messages of a log is said for debugging. -/
private theorem level_debug (h : Accounts isAfterAll synchronised p log q remarks calls) :
    ∀ r ∈ remarks, r.level = .debug := by
  induction h with
  | nil p => exact nofun
  | cons _ _ _ hanswers _ _ ih => exact List.forall_mem_append.2 ⟨hanswers.level_debug, ih⟩

/-- Every entry is applied or dropped, and every step that is closed is applied. -/
private theorem conserved (h : Accounts isAfterAll synchronised p log q remarks calls) :
    calls.countP (·.1 == .applyMessages) + remarks.countP (·.isMessageDropped)
      = log.countP (·.isEntry) + remarks.countP (·.isStepClosed) := by
  induction h with
  | nil p => rfl
  | @cons _ _ _ message rest _ _ _ _ _ _ _ hanswers _ _ ih =>
    have hfirst := hanswers.conserved
    -- the log counts as its first message and the rest
    have hlog : (message :: rest).countP (·.isEntry)
        = [message].countP (·.isEntry) + rest.countP (·.isEntry) := by
      show ([message] ++ rest).countP (·.isEntry) = _
      rw [List.countP_append]
    rw [hlog]
    simp only [List.countP_append]
    omega

/-- Tests are remarked upon when they are finalized without an ending. What has not ended at the
end of a log is still to be remarked upon. -/
private theorem countP_testFinalized (h : Accounts isAfterAll synchronised p log q remarks calls) :
    remarks.countP (·.isTestFinalized) + q.session.executables.length
      = (if ((window isAfterAll log).findSome? (·.ending?)).isSome then 0
          else p.session.executables.length)
        + (testRuns isAfterAll log).countP (·.ending.isNone) := by
  -- by induction on the log; the first summand is about the test that is open before it, as its
  -- window says, and the others are about the tests that the log starts
  induction h with
  | nil p => simp [window, testRuns]
  | @cons p p' q message rest remarks remarks' calls calls' _ _ _ hanswers hunended hrest ih =>
    have hfirst : remarks.countP (·.isTestFinalized)
        = if message.interrupts isAfterAll rest.isEmpty then p.session.executables.length else 0 :=
      hanswers.countP_testFinalized
    rw [List.countP_append, hfirst, Nat.add_assoc, ih, hunended]
    cases message with
    | suiteStart name isFeature =>
      rw [window_cons_of_finalizes rfl]
      simp [Message.interrupts, Message.finalizes, Message.unended, testRuns]
    | suiteEnd =>
      rw [window_cons_of_not_finalizes rfl, List.findSome?_cons]
      cases rest with
      | nil => simp [Message.interrupts, Message.unended, testRuns, window, Message.ending?]
      | cons next rest => simp [Message.interrupts, Message.unended, testRuns, Message.ending?]
    | testStart name start =>
      -- the new test has not ended, unless its window says so
      have hending : TestRun.ending ⟨name, start, window isAfterAll rest⟩
          = (window isAfterAll rest).findSome? (·.ending?) := rfl
      rw [window_cons_of_finalizes rfl, testRuns, List.countP_cons, hending]
      cases (window isAfterAll rest).findSome? (·.ending?) with
      | none => simp [Message.interrupts, Message.finalizes, Message.unended, Nat.add_comm]
      | some e => simp [Message.interrupts, Message.finalizes]
    | hookStart name kind start =>
      cases hname : (Message.hookStart name kind start).finalizes isAfterAll with
      | true =>
        rw [window_cons_of_finalizes hname]
        simp [Message.interrupts, Message.unended, testRuns, hname]
      | false =>
        rw [window_cons_of_not_finalizes hname, List.findSome?_cons]
        simp [Message.interrupts, Message.unended, testRuns, Message.ending?, hname]
    | testInfo | testEnd | hookEnd | entry =>
      rw [window_cons_of_not_finalizes rfl, List.findSome?_cons]
      simp [Message.interrupts, Message.finalizes, Message.unended, testRuns, Message.ending?]

/-- A log that has been read, what is left over then, and a remark about the length of the log make
a replay. -/
theorem runs_replay {r : Pass Desk} {final : List Remark} {closing : List (Operation × Handle)}
    (h : Accounts isAfterAll synchronised p p.session.log q remarks calls)
    (hsettle : Runs (Desk.machine isAfterAll synchronised).settle q () r)
    (hadds : Adds synchronised final closing q r) :
    Runs (Desk.machine isAfterAll synchronised).replay p ()
      ⟨r.session, ⟨r.world.report, p.world.notes
        ++ (remarks ++ final ++ [Remark.replayFinished p.session.log.length]).map fun r =>
          (synchronised, ⟨p.session.contextId, r⟩)⟩⟩ := by
  have hall := h.adds.trans hadds
  -- the last remark is made after everything has been settled
  have hlast : Runs ((Desk.machine isAfterAll synchronised).remark
      (.replayFinished p.session.log.length)) r ()
      ⟨r.session, ⟨r.world.report, r.world.notes
        ++ [(synchronised, ⟨r.session.contextId, .replayFinished p.session.log.length⟩)]⟩⟩ := rfl
  -- the session is read, the log is taken apart, and what is open is settled
  have hreplay : Runs (Desk.machine isAfterAll synchronised).replay p () _ :=
    .bind (show Runs Machine.session p p.session p from rfl) (.bind h.runs (.bind hsettle hlast))
  -- the notes of the three parts, one after another
  have hnotes : r.world.notes
        ++ [(synchronised, ⟨r.session.contextId, .replayFinished p.session.log.length⟩)]
      = p.world.notes ++ (remarks ++ final ++ [Remark.replayFinished p.session.log.length]).map
        fun r => (synchronised, ⟨p.session.contextId, r⟩) := by
    simp [hall.notes, hall.contextId]
  rw [← hnotes]
  exact hreplay

end Accounts

/-! ### Desks without notes -/

namespace Desk

/-- The machine that replays into the report of a desk and takes no notes. -/
def silentMachine (isAfterAll : String → Bool) (synchronised : Bool) : Machine Desk ReportError :=
  { reporter := silent, isAfterAll := isAfterAll, synchronised := synchronised }

/-- Without notes the report is the same. -/
private theorem callsFollow_silent (isAfterAll : String → Bool) (synchronised : Bool)
    (notes : List (Bool × Note)) :
    (silentMachine isAfterAll synchronised).CallsFollow False
      (fun d d' => d = ⟨d'.report, notes⟩) (machine isAfterAll synchronised) where
  reporter := by
    refine (Reporter.CallsFollow.refl Backend.reporter).extend isPart_report isPart_report
      (fun d d' h => by rw [h]) (fun d d' b b' h hb => by rw [h, hb]; rfl) id id fun flag n => ?_
    rintro d d' rfl a d'' h
    obtain ⟨rfl, rfl⟩ := h.unique (.change _ d')
    exact .inl ⟨_, .pure () _, rfl⟩
  isAfterAll := rfl
  synchronised := rfl

/-- A replay that succeeds with notes does so without notes. It leaves the same session and the same
report. -/
private theorem runs_silent {isAfterAll : String → Bool} {synchronised : Bool} {s : Session}
    {notes : List (Bool × Note)} {b : Backend} {p : Pass Desk}
    (h : Runs (machine isAfterAll synchronised).replay ⟨s, ⟨b, notes⟩⟩ () p) :
    Runs (silentMachine isAfterAll synchronised).replay ⟨s, ⟨b, notes⟩⟩ ()
      ⟨p.session, ⟨p.world.report, notes⟩⟩ := by
  rcases (callsFollow_silent isAfterAll synchronised notes).replay ⟨rfl, rfl⟩ h
    with ⟨q, hq, hsession, hworld⟩ | ⟨hfail, -⟩
  · obtain ⟨session, world⟩ := q
    obtain rfl : session = p.session := hsession
    obtain rfl : world = ⟨p.world.report, notes⟩ := hworld
    exact hq
  · exact hfail.elim

end Desk

/-! ### Replays -/

/-- The diagnostics of a replay of a log that begins at `start`. The log has been read at `q`, with
some `remarks` and calls on the way; what is left over then is dealt with on the way to `p`. -/
structure Diagnosed (isAfterAll : String → Bool) (synchronised : Bool) (log : List Message)
    (start q p : Pass Desk) (remarks : List Remark) (calls : List (Operation × Handle)) :
    Prop where
  accounts : Accounts isAfterAll synchronised start log q remarks calls
  /-- The session and the report still agree on what is open. -/
  coupled : Coupled q.session q.world.report
  settles : Runs (Desk.machine isAfterAll synchronised).settle q () p
  /-- Each fixture that still runs is stopped, and no entry is applied any more. -/
  leftovers : ∃ closing, Quiet closing ∧ Adds synchronised q.session.leftovers
    ((q.session.fixtures.map fun fixture => (.stopFixture, fixture)) ++ closing) q p
  /-- The whole replay has these remarks, and a last one about the length of the log. -/
  replays : Runs (Desk.machine isAfterAll synchronised).replay start ()
    ⟨p.session, ⟨p.world.report, start.world.notes
      ++ (remarks ++ q.session.leftovers ++ [Remark.replayFinished log.length]).map fun r =>
        (synchronised, ⟨start.session.contextId, r⟩)⟩⟩
  /-- Without notes, the replay leaves the same session and the same report. -/
  silently : Runs (Desk.silentMachine isAfterAll synchronised).replay start ()
    ⟨p.session, ⟨p.world.report, start.world.notes⟩⟩
  /-- The last remark is the only one that is not for debugging. -/
  debug : ∀ r ∈ remarks ++ q.session.leftovers, r.level = .debug
  /-- As many tests are remarked upon as the log leaves without an ending. -/
  unended : (remarks ++ q.session.leftovers).countP (·.isTestFinalized)
    = (testRuns isAfterAll log).countP (·.ending.isNone)
  /-- Entries are applied or dropped, and steps that are closed are applied. -/
  conserved : calls.countP (·.1 == .applyMessages) + remarks.countP (·.isMessageDropped)
    = log.countP (·.isEntry) + remarks.countP (·.isStepClosed)

namespace Machine

variable {isAfterAll : String → Bool} {synchronised : Bool} {p₀ : Pass Backend} {p : Pass Desk}
  {st : Standing}

/-- A desk stands as a standing says. -/
abbrev StandsAs (p : Pass Desk) (st : Standing) (p₀ : Pass Backend) : Prop :=
  Pass.Related (fun d b => d.report = b) p (st.pass p₀)

/-- What stands as a standing is coupled. -/
theorem StandsAs.coupled (hp : StandsAs p st p₀) : Coupled p.session p.world.report := by
  rw [hp.session, hp.world]
  exact st.coupled p₀.session p₀.world

/-- What stands as a standing keeps its report where it was. -/
theorem StandsAs.memory (hp : StandsAs p st p₀) (hm : p₀.world.destination = .memory) :
    p.world.report.destination = .memory := by
  rw [hp.world]
  exact hm

/-- Every log is accounted for from wherever a replay stands. -/
private theorem exists_accounts (hm : p₀.world.destination = .memory) (hs : st.Sound)
    (hp : StandsAs p st p₀) (log : List Message) :
    ∃ q remarks calls, Accounts isAfterAll synchronised p log q remarks calls
      ∧ StandsAs q (st.dispatchAll isAfterAll log) p₀ := by
  -- by induction on the log; the standing carries what is open from message to message
  induction log generalizing p st with
  | nil => exact ⟨p, [], [], .nil p, hp⟩
  | cons message rest ih =>
    -- the report by itself is known to go on, and the desk follows it
    have hruns := @runs_dispatch isAfterAll synchronised p₀ st hm hs rest.isEmpty message
    rcases (Desk.callsFollow_backend isAfterAll synchronised).dispatch rest.isEmpty message hp hruns
      with ⟨p', hdesk, hp'⟩ | ⟨hfail, -⟩
    · have hs' := Standing.Moves.sound
        (Standing.moves_dispatch isAfterAll rest.isEmpty message st) hs
      obtain ⟨remarks, calls, hadds, hanswers, hunended⟩ :=
        exists_answers (hp.memory hm) hp.coupled.executables hdesk
      obtain ⟨q, remarks', calls', hrest, hq⟩ := ih hs' hp'
      exact ⟨q, _, _, .cons hp.coupled hdesk hadds hanswers hunended hrest, hq⟩
    · exact hfail.elim

/-- The replay of any log into a report in memory in which nothing is open succeeds, and its notes
account for every message. -/
theorem diagnosed_of_replay {b : Backend} (hb : b.Idle) (isAfterAll : String → Bool)
    (synchronised : Bool) (contextId : String) (log : List Message) (notes : List (Bool × Note)) :
    ∃ q p remarks calls, Diagnosed isAfterAll synchronised log
      ⟨{ contextId := contextId, log := log }, ⟨b, notes⟩⟩ q p remarks calls := by
  -- nothing is open at the beginning, so the replay stands as an initial standing
  have hs := Standing.sound_initial b
  have hstart : StandsAs ⟨{ contextId := contextId, log := log }, ⟨b, notes⟩⟩ (Standing.initial b)
      ⟨{ contextId := contextId, log := log }, b⟩ := by
    rw [StandsAs, Standing.pass_initial hb]
    exact ⟨rfl, rfl⟩
  -- every message is accounted for
  obtain ⟨q, remarks, calls, haccounts, hq⟩ := @exists_accounts isAfterAll synchronised
    ⟨{ contextId := contextId, log := log }, b⟩ _ _ hb.memory hs hstart log
  have hs' := Standing.Moves.sound
    (Standing.moves_dispatchAll isAfterAll log (Standing.initial b)) hs
  have hsettle := @runs_settle isAfterAll synchronised
    ⟨{ contextId := contextId, log := log }, b⟩ _ hb.memory hs'
  -- settling in memory succeeds, so with the notes it does too
  obtain ⟨p, hp⟩ : ∃ p, Runs (Desk.machine isAfterAll synchronised).settle q () p := by
    rcases (Desk.callsFollow_backend isAfterAll synchronised).settle hq hsettle
      with ⟨p, hp, -⟩ | ⟨hfail, -⟩
    · exact ⟨p, hp⟩
    · exact hfail.elim
  -- settling remarks what was left over
  obtain ⟨closing, hquiet, hadds⟩ :=
    adds_settle (hq.memory hb.memory) hq.coupled.executables hp
  have hreplay := haccounts.runs_replay hp hadds
  have hsilently := Desk.runs_silent hreplay
  have hdebug : ∀ r ∈ remarks ++ q.session.leftovers, r.level = .debug :=
    List.forall_mem_append.2 ⟨haccounts.level_debug, fun r hr => Session.level_leftovers hr⟩
  have hunended : (remarks ++ q.session.leftovers).countP (·.isTestFinalized)
      = (testRuns isAfterAll log).countP (·.ending.isNone) := by
    -- no test was open before the log, and one that is open after it is left over
    have hread := haccounts.countP_testFinalized
    rw [List.countP_append, Session.countP_leftovers, hread]
    simp
  exact ⟨q, p, remarks, calls,
    { accounts := haccounts
      coupled := hq.coupled
      settles := hp
      leftovers := ⟨closing, hquiet, hadds⟩
      replays := hreplay
      silently := hsilently
      debug := hdebug
      unended := hunended
      conserved := haccounts.conserved }⟩

/-- A hook that is declined, a message that comes too early, a step that its test leaves open, a
test that never ends and a fixture that still runs. -/
theorem diagnosed_of_stray_messages :
    (Backend.inMemory {}).Idle ∧ ∃ q p remarks calls, Diagnosed (fun _ => false) true
        [.hookStart "early" .before 1, .entry (.stepStart "lost" 2), .testStart "a" 3,
          .entry (.stepStart "open" 4), .testEnd { status := .passed, stop := 5 },
          .testStart "b" 6, .hookStart "late" .before 7]
        ⟨{ contextId := "main"
           log := [.hookStart "early" .before 1, .entry (.stepStart "lost" 2), .testStart "a" 3,
             .entry (.stepStart "open" 4), .testEnd { status := .passed, stop := 5 },
             .testStart "b" 6, .hookStart "late" .before 7] }, ⟨.inMemory {}, []⟩⟩ q p remarks calls
      ∧ remarks ++ q.session.leftovers = [.fixtureDeclined "early", .messageDropped .stepStart,
        .stepClosed .passed, .fixtureStopped, .testFinalized .endOfLog] := by
  have hb := Backend.idle_inMemory {}
  obtain ⟨q, p, remarks, calls, hd⟩ := diagnosed_of_replay hb (fun _ => false) true "main"
    [.hookStart "early" .before 1, .entry (.stepStart "lost" 2), .testStart "a" 3,
      .entry (.stepStart "open" 4), .testEnd { status := .passed, stop := 5 }, .testStart "b" 6,
      .hookStart "late" .before 7] []
  refine ⟨hb, q, p, remarks, calls, hd, ?_⟩
  -- the replay is run, and its notes are those that are known
  have hrun := congrArg
    (fun result : EStateM.Result ReportError (Pass Desk) Unit => match result with
      | .ok _ p => p.world.notes.map fun note : Bool × Note => note.2.remark
      | .error _ _ => []) hd.replays
  -- the last note is the one that the replay has finished
  have hall : remarks ++ q.session.leftovers ++ [Remark.replayFinished 7]
      = [.fixtureDeclined "early", .messageDropped .stepStart, .stepClosed .passed, .fixtureStopped,
        .testFinalized .endOfLog, .replayFinished 7] := by
    refine Eq.trans ?_ (hrun.symm.trans (by decide +kernel))
    simp [Function.comp_def]
  exact List.append_cancel_right (hall.trans rfl)

end Machine

end Chronicle
