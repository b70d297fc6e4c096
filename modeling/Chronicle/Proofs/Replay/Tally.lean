import Chronicle.Proofs.Replay.Account
import Chronicle.Proofs.Replay.Addition
import Chronicle.Proofs.Replay.Nesting

/-!
# What logs leave in a report

A replay writes one test for each start of a test in its log and one scope for each start of a suite
or a test, and it keeps each attachment that comes while a test is open. `Backend.Tallies` says so
about a report into which any number of logs have been replayed.
-/
namespace Chronicle

/-! ### Reading messages -/

namespace Message

/-- The name and the time with which a message starts a test. -/
def testStart? : Message → Option (String × Int)
  | .testStart name start => some (name, start)
  | _ => none

/-- The attachment that a message brings. -/
def attachment? : Message → Option Attachment
  | .entry (.attachment file) => some file
  | _ => none

/-- Only an attachment attaches a file. -/
private theorem eq_attachment {m : Message} {file : Attachment} (hm : m.attachment? = some file) :
    m = .entry (.attachment file) := by
  cases m with
  | entry e => cases e <;> cases hm; rfl
  | _ => cases hm

end Message

/-- Whether messages of a kind open a scope. -/
def MessageKind.opensScope : MessageKind → Bool
  | .suiteStart | .testStart => true
  | _ => false

/-- The attachments that come while a test is open, in order. -/
def attached (isAfterAll : String → Bool) (log : List Message) : List Attachment :=
  (testRuns isAfterAll log).flatMap fun run => run.window.filterMap (·.attachment?)

/-- Whether this is how an attachment is kept: its bytes, under a name made of a handle and its
type. -/
def Attachment.IsKeptAs (file : Attachment) (a : String × Bytes) : Prop :=
  ∃ n, a = (Backend.sourceName (.drawn n) file.contentType, file.content)

/-- The runs of tests are the starts of tests, in order. -/
private theorem map_testRuns (isAfterAll : String → Bool) (log : List Message) :
    (testRuns isAfterAll log).map (fun run => (run.name, run.start))
      = log.filterMap (·.testStart?) := by
  induction log with
  | nil => rfl
  | cons m rest ih => cases m <;> simp [testRuns, Message.testStart?, ih]

namespace Standing

variable {st : Standing} {isAfterAll : String → Bool} {m : Message}

/-! ### Attachments -/

/-- A change of the current test attaches nothing to the report. -/
private theorem attachments_changeTest (op : Operation) (f : OpenTest → OpenTest) (st : Standing) :
    (st.changeTest op f).attachments = st.attachments := by
  cases hc : st.current <;> simp [changeTest, hc]

/-- Nor does a scope that is closed. -/
private theorem attachments_closeScope (st : Standing) :
    st.closeScope.attachments = st.attachments := by
  cases hs : st.scopes <;> simp [closeScope, hs]

/-- Nor does a fixture that starts. -/
private theorem attachments_startFixture (kind : HookKind) (name : String) (start : Int)
    (st : Standing) :
    (st.startFixture kind name start).attachments = st.attachments := by
  cases hs : st.scopes <;> simp [startFixture, hs]

/-- Nor do steps that are closed. -/
private theorem attachments_closeSteps (status : Status) (stop : Int) (n : Nat) (st : Standing) :
    (st.closeSteps status stop n).attachments = st.attachments := by
  induction n generalizing st with
  | zero => rfl
  | succ n ih => exact (ih _).trans (attachments_changeTest _ _ st)

/-- Nor does a test that ends. -/
private theorem attachments_endTest (e : TestEnding) (st : Standing) :
    (st.endTest e).attachments = st.attachments := by
  rcases hc : st.current with _ | ⟨t, _ | _⟩
  · simp only [endTest, hc]
  · have hclosed := current_closeSteps hc e.status e.stop t.openSteps.length
    have hended := current_changeTest hclosed .updateTest (·.update (·.ended e))
    simp only [endTest, hc, stopTest, hended, attachments_changeTest, attachments_closeSteps]
  · simp only [endTest, hc]

/-- Nor does its finalization. -/
private theorem attachments_finalize (st : Standing) :
    st.finalize.attachments = st.attachments := by
  cases hc : st.current with
  | none => simp [finalize, hc]
  | some c => simp [finalize, hc, writeTest, current_closeScope, attachments_closeScope]

/-- Nor do the scopes that are closed at the end. -/
private theorem attachments_closeScopes (scopes : List Scope) (st : Standing) :
    (st.closeScopes scopes).attachments = st.attachments := by
  induction scopes generalizing st with
  | nil => rfl
  | cons s rest ih => exact (ih _).trans (attachments_closeScope st)

/-- Only an attachment brings one. -/
private theorem attachments_step (hm : m.attachment? = none) (st : Standing) :
    (st.step isAfterAll m).attachments = st.attachments := by
  cases m with
  -- finalizing writes what has been kept
  | suiteStart name isFeature => exact attachments_finalize st
  | suiteEnd => exact attachments_closeScope st
  | testStart name start => exact attachments_finalize st
  | testInfo fullName =>
    simp only [step, nameTest]
    split
    · exact attachments_changeTest _ _ st
    · rfl
  | testEnd e => exact attachments_endTest e st
  | hookStart name kind start =>
    -- a hook that finalizes the test attaches nothing either way
    cases hname : isAfterAll name with
    | false => rw [step_hookStart hname, attachments_startFixture]
    | true =>
      rw [step_hookStart_of_isAfterAll hname, attachments_startFixture, attachments_finalize]
  | hookEnd e => cases hr : st.running <;> simp [step, endHook, updateFixture, stopFixture, hr]
  | entry e =>
    cases e with
    -- the one entry that keeps a file is left out
    | attachment file => cases hm
    | _ => exact attachments_changeTest _ _ st

/-- A message that starts no test attaches only what it brings itself. -/
private theorem attached_cons (hm : m.testStart? = none) (rest : List Message) :
    attached isAfterAll (m :: rest) = attached isAfterAll rest := by
  cases m <;> first | rfl | cases hm

/-- While messages are read, the attachments of the test that is open are kept, and those of the
tests that follow. -/
private theorem exists_attachments (isAfterAll : String → Bool) (log : List Message)
    (st : Standing) :
    ∃ kept, (st.steps isAfterAll log).attachments = kept.reverse ++ st.attachments
      ∧ List.Forall₂ Attachment.IsKeptAs
        ((if st.current.isSome then (window isAfterAll log).filterMap (·.attachment?) else [])
          ++ attached isAfterAll log) kept := by
  -- by induction on the log: what a message adds comes before what the rest adds
  induction log generalizing st with
  | nil =>
    refine ⟨[], rfl, ?_⟩
    rw [show window isAfterAll [] = [] from rfl, List.filterMap_nil, ite_self]
    exact .nil
  | cons m rest ih =>
    obtain ⟨kept, hkept, hall⟩ := ih (st.step isAfterAll m)
    cases hm : m.finalizes isAfterAll with
    -- the message finalizes the test, and attaches nothing
    | true =>
      have hnone : m.attachment? = none := by
        rcases m.cases_of_finalizes hm with ⟨_, _, rfl⟩ | ⟨_, _, rfl⟩ | ⟨_, _, _, rfl, -⟩ <;> rfl
      refine ⟨kept, by rw [steps_cons, hkept, attachments_step hnone], ?_⟩
      rw [window_cons_of_finalizes hm, List.filterMap_nil, ite_self, List.nil_append]
      -- a test is open afterwards if it is the message that starts it
      rcases m.cases_of_finalizes hm with ⟨name, isFeature, rfl⟩ | ⟨name, start, rfl⟩
          | ⟨name, kind, start, rfl, hname⟩
      · have hcurrent : (st.step isAfterAll (.suiteStart name isFeature)).current = none :=
          current_finalize st
        rw [hcurrent] at hall
        exact hall
      · exact hall
      · have hcurrent : (st.step isAfterAll (.hookStart name kind start)).current = none := by
          rw [step_hookStart_of_isAfterAll hname, current_startFixture, current_finalize]
        rw [hcurrent] at hall
        exact hall
    -- the open test, if there is one, stays open
    | false =>
      have hcurrent : (st.step isAfterAll m).current.isSome = st.current.isSome := by
        rw [current_step hm, Option.isSome_map]
      have htest : m.testStart? = none := by
        cases m <;> first | rfl | cases hm
      rw [hcurrent] at hall
      rw [window_cons_of_not_finalizes hm, attached_cons htest, steps_cons]
      cases hfile : m.attachment? with
      | none =>
        refine ⟨kept, by rw [hkept, attachments_step hfile], ?_⟩
        rwa [List.filterMap_cons_none hfile]
      | some file =>
        obtain rfl := Message.eq_attachment hfile
        cases hc : st.current with
        | none =>
          -- no test is open, so the attachment is dropped
          have hdropped : (st.step isAfterAll (.entry (.attachment file))).attachments
              = st.attachments := by
            simp [step, applyEntry, attach, hc]
          refine ⟨kept, by rw [hkept, hdropped], ?_⟩
          rwa [hc] at hall
        -- the file is kept under the next number
        | some c =>
          have hadded : (st.step isAfterAll (.entry (.attachment file))).attachments
              = (Backend.sourceName st.next file.contentType, file.content) :: st.attachments := by
            simp [step, applyEntry, attach, hc]
          refine ⟨_ :: kept, by rw [hkept, hadded, List.reverse_cons, List.append_assoc]; rfl, ?_⟩
          rw [hc] at hall
          exact .cons ⟨st.drawn, rfl⟩ hall

/-- A whole replay keeps the attachments that come while a test is open. -/
private theorem exists_attachments_replay (b : Backend) (isAfterAll : String → Bool)
    (log : List Message) :
    ∃ kept, ((initial b).replay isAfterAll log).attachments = kept.reverse
      ∧ List.Forall₂ Attachment.IsKeptAs (attached isAfterAll log) kept := by
  obtain ⟨kept, hkept, hall⟩ := exists_attachments isAfterAll log (initial b)
  have hreplay : ((initial b).replay isAfterAll log).attachments
      = ((initial b).steps isAfterAll log).drain.attachments :=
    congrArg (·.attachments) (core_replay isAfterAll log (initial b))
  refine ⟨kept, ?_, hall⟩
  rw [hreplay, drain, attachments_closeScopes, attachments_finalize, hkept]
  exact List.append_nil _

/-! ### Tests and scopes -/

/-- A replay writes one test for each start in the log, in the same order. -/
theorem map_writtenTests_replay (b : Backend) (isAfterAll : String → Bool) (log : List Message) :
    ((initial b).replay isAfterAll log).writtenTests.map (fun r => (r.name, r.start))
      = log.filterMap (·.testStart?) := by
  have hall := forall₂_recounts b isAfterAll log
  rw [← map_testRuns isAfterAll log, eq_comm, ← List.forall₂_eq_eq_eq, List.forall₂_map_left_iff,
    List.forall₂_map_right_iff]
  refine hall.imp fun run r ⟨st, c, hrecounts⟩ => ?_
  have htells := hrecounts.tells
  rw [htells.name, htells.start]

/-- There is a scope for each mark that opens one. -/
private theorem length_scopesOf (marks : List Mark) :
    (scopesOf marks).length = (marks.map (·.kind)).countP (·.opensScope) := by
  induction marks with
  | nil => rfl
  | cons mark rest ih =>
    cases mark <;> simp [scopesOf, Mark.scope?, Mark.kind, MessageKind.opensScope] at ih ⊢ <;> omega

/-- A whole replay writes one scope for each start of a suite or a test. -/
theorem length_writtenScopes_replay (b : Backend) (isAfterAll : String → Bool)
    (log : List Message) :
    ((initial b).replay isAfterAll log).writtenScopes.length
      = log.countP (·.kind.opensScope) := by
  obtain ⟨marks, hcharts, hkinds⟩ := exists_charts b isAfterAll log
  have hcore := core_replay isAfterAll log (initial b)
  generalize (initial b).steps isAfterAll log = st at hcharts hcore
  have hwritten : ((initial b).replay isAfterAll log).writtenScopes = st.drain.writtenScopes :=
    congrArg (·.writtenScopes) hcore
  -- nothing is open at the end, so all scopes have been written
  have hscopes : st.drain.scopes = [] := scopes_closeScopes rfl
  -- each scope that was started is in the chart once
  have hfamilies := ((alike_drain st).families.trans hcharts.families).length_eq
  have hmarked : ∀ kind : MessageKind, (kind.opensScope && kind.isMarked) = kind.opensScope := by
    intro kind
    cases kind <;> rfl
  rw [families, hscopes, List.nil_append, List.length_map, List.length_map, length_scopesOf, hkinds,
    List.countP_filter] at hfamilies
  simp only [hmarked] at hfamilies
  rw [hwritten, hfamilies, List.countP_map]
  rfl

end Standing

/-! ### Any number of logs -/

/-- What is in a report into which some logs have been replayed, one after another. -/
structure Backend.Tallies (isAfterAll : String → Bool) (logs : List (List Message))
    (b : Backend) : Prop where
  /-- One test for each start of a test, in order. -/
  tests : b.writtenTests.map (fun r => (r.name, r.start))
    = logs.flatten.filterMap (·.testStart?)
  /-- One scope for each start of a suite or a test. -/
  scopes : b.writtenScopes.length = logs.flatten.countP (·.kind.opensScope)
  /-- One attachment for each that comes while a test is open, in order. -/
  attachments : List.Forall₂ Attachment.IsKeptAs (logs.flatMap (attached isAfterAll))
    b.attachments.reverse

namespace Backend

variable {isAfterAll : String → Bool} {logs : List (List Message)} {b : Backend}

/-- A new report tallies with no logs. -/
theorem tallies_inMemory (isAfterAll : String → Bool) (disk : FileTree) :
    (inMemory disk).Tallies isAfterAll [] :=
  ⟨rfl, rfl, .nil⟩

/-- One more log adds what it leaves, whatever logs came before. -/
theorem Tallies.replayed (h : b.Tallies isAfterAll logs) (log : List Message) :
    (b.replayed isAfterAll log).Tallies isAfterAll (logs ++ [log]) := by
  obtain ⟨kept, hkept, hall⟩ := Standing.exists_attachments_replay b isAfterAll log
  refine ⟨?_, ?_, ?_⟩
  -- the tests, the scopes and the attachments of the new log come at the end
  · simp only [Backend.replayed, Standing.report, List.map_append, h.tests,
      Standing.map_writtenTests_replay, List.flatten_append, List.filterMap_append,
      List.flatten_singleton]
  · simp only [Backend.replayed, Standing.report, List.length_append, h.scopes,
      Standing.length_writtenScopes_replay, List.flatten_append, List.countP_append,
      List.flatten_singleton]
  · simp only [Backend.replayed, Standing.report, hkept, List.reverse_append, List.reverse_reverse,
      List.flatMap_append, List.flatMap_singleton]
    exact List.rel_append h.attachments hall

end Backend

end Chronicle
