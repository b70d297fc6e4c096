import Chronicle.Proofs.Replay.Account
import Chronicle.Proofs.Replay.Sources
import Chronicle.Proofs.Replay.StepTree

/-!
# The steps of a test

The steps and attachments of a written test are what brackets say that stand in the window of its
start. The first ending closes the steps that are open then, and nothing else does so:
`TestRun.Contains`. The replay counts open steps in the session and keeps them in the report; the
two agree, so as many steps are closed at the ending as are open.
-/
namespace Chronicle

/-! ### Marks of a window -/

/-- The marks of some messages. An attachment is known by a source under which its content is
kept. -/
inductive Marked (attachments : List (String × Bytes)) : List Message → List StepMark → Prop
  | nil : Marked attachments [] []
  | opened {log : List Message} {marks : List StepMark} (name : String) (start : Int)
      (h : Marked attachments log marks) :
      Marked attachments (.entry (.stepStart name start) :: log) (.opened name start :: marks)
  | closed {log : List Message} {marks : List StepMark} (status : Status) (stop : Int)
      (details : Option StatusDetails) (h : Marked attachments log marks) :
      Marked attachments (.entry (.stepStop status stop details) :: log)
        (.closed ⟨status, stop, details⟩ :: marks)
  | attached {log : List Message} {marks : List StepMark} (file : Attachment) {source : String}
      (hsource : attachments.lookup source = some file.content) (h : Marked attachments log marks) :
      Marked attachments (.entry (.attachment file) :: log)
        (.attached ⟨file.name, source, file.contentType⟩ :: marks)
  | other {log : List Message} {marks : List StepMark} {m : Message}
      (hkind : m.kind ∉ [.stepStart, .stepStop, .attachment]) (h : Marked attachments log marks) :
      Marked attachments (m :: log) marks

namespace Message

/-- The step that a message starts. -/
def stepStart? : Message → Option (String × Int)
  | .entry (.stepStart name start) => some (name, start)
  | _ => none

/-- The mark of a message, if an attachment gets a source made of this handle. -/
def mark? (next : Handle) : Message → Option StepMark
  | .entry (.stepStart name start) => some (.opened name start)
  | .entry (.stepStop status stop details) => some (.closed ⟨status, stop, details⟩)
  | .entry (.attachment file) =>
    some (.attached ⟨file.name, Backend.sourceName next file.contentType, file.contentType⟩)
  | _ => none

/-- The call that a message makes with the open test, other than to end it. -/
def operation? (ended : Bool) : Message → Option Operation
  | .testInfo _ => if ended then none else some .updateTest
  | .entry _ => some .applyMessages
  | _ => none

end Message

/-- The marks tell the steps that the messages start. -/
theorem Marked.starts {attachments : List (String × Bytes)} {log : List Message}
    {marks : List StepMark} (h : Marked attachments log marks) :
    marks.filterMap (·.start?) = log.filterMap (·.stepStart?) := by
  induction h with
  | nil => rfl
  | opened name start _ ih => exact congrArg ((name, start) :: ·) ih
  | closed _ _ _ _ ih => exact ih
  | attached _ _ _ ih => exact ih
  -- a message without a mark starts no step
  | @other log marks m hkind _ ih =>
    have hnone : m.stepStart? = none := by
      cases m with
      | entry e => cases e <;> simp_all [Message.kind, TestEntry.kind, Message.stepStart?]
      | _ => rfl
    rw [List.filterMap_cons, hnone]
    exact ih

/-! ### One message -/

namespace Current

variable (next : Handle) (c : Current) {m : Message}

/-- A message that is not the ending of the test leaves what will become of it as the marks say. -/
private theorem outlook_after (hm : m.ending? = none ∨ c.ended = true) (atEnd : Option StepClosing)
    (marks : List StepMark) :
    (c.after next m).test.outlook atEnd marks
      = c.test.outlook atEnd ((m.mark? next).toList ++ marks) := by
  cases m with
  | suiteStart | suiteEnd | testStart | hookStart | hookEnd => rfl
  | testInfo fullName =>
    simp only [Current.after]
    split <;> rfl
  -- a second ending changes nothing
  | testEnd e =>
    have hended : c.ended = true := hm.resolve_left (Option.some_ne_none e)
    simp only [Current.after, hended, if_true]
    rfl
  -- an entry is the one message with a mark
  | entry e =>
    cases e with
    | stepStart name start => exact c.test.outlook_openStep atEnd marks name start
    | stepStop status stop details => exact c.test.outlook_closeStep atEnd marks status stop details
    | metadata labels parameters => rfl
    | attachment file => exact c.test.outlook_attach atEnd marks _

/-- The steps open in a test are as many as the marks leave open. -/
private theorem length_openSteps_after (hm : m.ending? = none ∨ c.ended = true) :
    (c.after next m).test.openSteps.length
      = (m.mark? next).toList.foldl StepMark.depth c.test.openSteps.length := by
  cases m with
  | suiteStart | suiteEnd | testStart | hookStart | hookEnd => rfl
  | testInfo fullName =>
    simp only [Current.after]
    split <;> rfl
  -- a second ending changes nothing
  | testEnd e =>
    have hended : c.ended = true := hm.resolve_left (Option.some_ne_none e)
    simp only [Current.after, hended, if_true]
    rfl
  | entry e =>
    cases e with
    | stepStart name start => rfl
    | stepStop status stop details => exact c.test.length_closeStep status stop details
    | metadata labels parameters => rfl
    -- an attachment goes into the innermost step, or into the test
    | attachment file => cases ht : c.test.openSteps <;> simp [Current.after, OpenTest.attach, ht,
        Message.mark?, StepMark.depth]

/-- Only the first ending ends a test. -/
private theorem ended_after_of_ended (hm : m.ending? = none ∨ c.ended = true) :
    (c.after next m).ended = c.ended := by
  rcases hm with hm | hended
  · exact c.ended_after next hm
  · cases m with
    | testEnd e => simp [Current.after, hended]
    | testInfo fullName => exact c.ended_after next rfl
    | entry e => exact c.ended_after next rfl
    | _ => rfl

end Current

namespace Standing

variable {st : Standing} {isAfterAll : String → Bool} {m : Message} {c : Current}

/-- The handle of the current test is not that of an open scope. -/
private theorem Sound.ne_of_mem_scopes (hs : st.Sound) (hc : st.current = some c) {s : Scope}
    (hmem : s ∈ st.scopes) : s.handle ≠ c.handle := by
  have hnodup := hs.nodup
  rw [held, hc] at hnodup
  exact (List.nodup_append.1 hnodup).2.2 _ (List.mem_map_of_mem hmem) _ List.mem_cons_self

/-- Nor is it that of a running fixture. -/
private theorem Sound.ne_of_mem_running (hs : st.Sound) (hc : st.current = some c) {h : Handle}
    (hmem : h ∈ st.running) : h ≠ c.handle := by
  have hnodup := hs.nodup
  rw [held, hc] at hnodup
  have hrest := (List.nodup_append.1 hnodup).2.1
  rintro rfl
  exact (List.nodup_cons.1 hrest).1 hmem

/-- Nor is it the next handle. -/
private theorem Sound.next_ne (hs : st.Sound) (hc : st.current = some c) : st.next ≠ c.handle := by
  have hdrawn : c.handle.IsBefore st.drawn := hs.drawn _ (by simp [held, hc])
  exact hdrawn.ne_drawn.symm

/-- A scope that is closed is no call on the current test. -/
private theorem callsOn_closeScope (hs : st.Sound) (hc : st.current = some c) :
    callsOn c.handle st.closeScope.calls = callsOn c.handle st.calls := by
  cases hscopes : st.scopes with
  | nil => simp only [closeScope, hscopes]
  | cons s rest =>
    simp only [closeScope, hscopes]
    exact callsOn_snoc_of_ne (hs.ne_of_mem_scopes hc (hscopes ▸ List.mem_cons_self)) _ _

/-- A change of the current test is one call on it. -/
private theorem callsOn_changeTest (hc : st.current = some c) (op : Operation)
    (f : OpenTest → OpenTest) :
    callsOn c.handle (st.changeTest op f).calls = callsOn c.handle st.calls ++ [op] := by
  simp only [changeTest, hc, callsOn_snoc_self]

/-- Its stop is one call on it. -/
private theorem callsOn_stopTest (hc : st.current = some c) (stop duration : Option Int) :
    callsOn c.handle (st.stopTest stop duration).calls
      = callsOn c.handle st.calls ++ [.stopTest] := by
  simp only [stopTest, hc, callsOn_snoc_self]

/-- A fixture that starts is no call on the current test. -/
private theorem callsOn_startFixture (hs : st.Sound) (hc : st.current = some c) (kind : HookKind)
    (name : String) (start : Int) :
    callsOn c.handle (st.startFixture kind name start).calls = callsOn c.handle st.calls := by
  cases hscopes : st.scopes with
  | nil => simp only [startFixture, hscopes]
  | cons s rest =>
    simp only [startFixture, hscopes]
    exact callsOn_snoc_of_ne (hs.next_ne hc) _ _

/-- A hook that ends is no call on it. -/
private theorem callsOn_endHook (hs : st.Sound) (hc : st.current = some c) (e : HookEnding) :
    callsOn c.handle (st.endHook e).calls = callsOn c.handle st.calls := by
  cases hrunning : st.running with
  | nil => simp only [endHook, updateFixture, stopFixture, hrunning]
  | cons h rest =>
    have hne := hs.ne_of_mem_running hc (hrunning ▸ List.mem_cons_self)
    simp only [endHook, updateFixture, stopFixture, hrunning]
    rw [callsOn_snoc_of_ne hne, callsOn_snoc_of_ne hne]

/-- What a message calls with the open test. -/
private theorem callsOn_step (hs : st.Sound) (hc : st.current = some c)
    (hm : m.finalizes isAfterAll = false) (he : m.ending? = none ∨ c.ended = true) :
    callsOn c.handle (st.step isAfterAll m).calls
      = callsOn c.handle st.calls ++ (m.operation? c.ended).toList := by
  cases m with
  | suiteStart name isFeature => cases hm
  | testStart name start => cases hm
  -- a scope is written, which is another handle
  | suiteEnd => exact (callsOn_closeScope hs hc).trans (List.append_nil _).symm
  -- a test that has ended is not named any more
  | testInfo fullName =>
    obtain ⟨t, _ | _⟩ := c
    · simp only [step, nameTest, hc]
      exact callsOn_changeTest hc _ _
    · simp [step, nameTest, hc, Message.operation?]
  | testEnd e =>
    obtain ⟨t, ended⟩ := c
    obtain rfl : ended = true := he.resolve_left (Option.some_ne_none e)
    simp [step, endTest, hc, Message.operation?]
  -- a fixture is started, which is another handle too
  | hookStart name kind start =>
    rw [step_hookStart hm, callsOn_startFixture hs hc]
    exact (List.append_nil _).symm
  | hookEnd e => exact (callsOn_endHook hs hc e).trans (List.append_nil _).symm
  -- each entry is one call on the open test
  | entry e =>
    cases e with
    | stepStart name start => exact callsOn_changeTest hc _ _
    | stepStop status stop details => exact callsOn_changeTest hc _ _
    | metadata labels parameters => exact callsOn_changeTest hc _ _
    | attachment file => simp [step, applyEntry, attach, hc, callsOn_snoc_self, Message.operation?]

/-! ### Messages up to the ending, and after it -/

/-- What messages make of the open test of a standing, if none of them is its ending. -/
structure Grown (attachments : List (String × Bytes)) (log : List Message) (marks : List StepMark)
    (st st' : Standing) (c c' : Current) : Prop where
  marked : Marked attachments log marks
  current : st'.current = some c'
  handle : c'.handle = c.handle
  ended : c'.ended = c.ended
  outlook : ∀ atEnd later, c'.test.outlook atEnd later = c.test.outlook atEnd (marks ++ later)
  openSteps : c'.test.openSteps.length = marks.foldl StepMark.depth c.test.openSteps.length
  calls : callsOn c.handle st'.calls
    = callsOn c.handle st.calls ++ log.filterMap (·.operation? c.ended)

/-- A message has one mark or none, and the content of an attachment is kept. -/
private theorem marked_cons {attachments : List (String × Bytes)} {log : List Message}
    {marks : List StepMark} (hc : st.current = some c)
    (hkept : ∀ source content, (source, content) ∈ (st.step isAfterAll m).attachments →
      attachments.lookup source = some content) (hmarked : Marked attachments log marks) :
    Marked attachments (m :: log) ((m.mark? st.next).toList ++ marks) := by
  cases m with
  | entry e =>
    cases e with
    | stepStart name start => exact .opened name start hmarked
    | stepStop status stop details => exact .closed status stop details hmarked
    | metadata labels parameters => exact .other (by simp [Message.kind, TestEntry.kind]) hmarked
    -- its content was kept when it was met
    | attachment file =>
      refine .attached file (hkept _ _ ?_) hmarked
      simp only [step, applyEntry, attach, hc]
      exact List.mem_cons_self
  | _ => exact .other (by simp [Message.kind]) hmarked

/-- A window in which the test does not end adds the marks that its messages leave. -/
private theorem exists_grown {attachments : List (String × Bytes)} {log : List Message}
    (hs : st.Sound) (hc : st.current = some c) (hlog : ∀ m ∈ log, m.finalizes isAfterAll = false)
    (he : (∀ m ∈ log, m.ending? = none) ∨ c.ended = true)
    (hkept : ∀ source content, (source, content) ∈ (st.steps isAfterAll log).attachments →
      attachments.lookup source = some content) :
    ∃ marks c', Grown attachments log marks st (st.steps isAfterAll log) c c' := by
  -- by induction on the log: the rest goes on from what the first message has left
  induction log generalizing st c with
  | nil =>
    exact ⟨[], c, .nil, hc, rfl, rfl, fun _ _ => rfl, rfl, (List.append_nil _).symm⟩
  | cons m rest ih =>
    obtain ⟨hm, hrest⟩ := List.forall_mem_cons.1 hlog
    have hem : m.ending? = none ∨ c.ended = true :=
      he.imp_left fun hall => hall m List.mem_cons_self
    have hmoves := moves_step isAfterAll m st
    -- the test goes through the first message and stays open
    have hc' : (st.step isAfterAll m).current = some (c.after st.next m) := by
      rw [current_step hm, hc, Option.map_some]
    have hended := c.ended_after_of_ended st.next hem
    have hhandle := c.handle_after st.next m
    have herest : (∀ m ∈ rest, m.ending? = none) ∨ (c.after st.next m).ended = true :=
      he.imp (fun hall m hm => hall m (List.mem_cons_of_mem _ hm)) hended.trans
    -- the marks of the rest come after that of the first message
    obtain ⟨marks, c', hgrown⟩ := ih (Moves.sound hmoves hs) hc' hrest herest hkept
    refine ⟨(m.mark? st.next).toList ++ marks, c', ?_⟩
    exact
      { marked := marked_cons hc
          (fun source content hmem => hkept source content
            (Moves.attachments_subset (moves_steps isAfterAll rest _) hmem)) hgrown.marked
        current := hgrown.current
        handle := hgrown.handle.trans hhandle
        ended := hgrown.ended.trans hended
        outlook := fun atEnd later => by
          rw [hgrown.outlook, c.outlook_after st.next hem, List.append_assoc]
        openSteps := by
          rw [hgrown.openSteps, c.length_openSteps_after st.next hem, List.foldl_append]
        calls := by
          have hcalls := hgrown.calls
          rw [hhandle, hended, callsOn_step hs hc hm hem, List.append_assoc] at hcalls
          rw [steps_cons, hcalls]
          cases hop : m.operation? c.ended <;> simp [hop] }

/-- Each step that is closed is one call on the test. -/
private theorem callsOn_closeSteps (hc : st.current = some c) (status : Status) (stop : Int)
    (n : Nat) :
    callsOn c.handle (st.closeSteps status stop n).calls
      = callsOn c.handle st.calls ++ List.replicate n .applyMessages := by
  induction n generalizing st c with
  | zero => exact (List.append_nil _).symm
  | succ n ih =>
    have hclosed := current_changeTest hc .applyMessages (·.closeStep status stop none)
    -- closing a step leaves the handle, so the next one is closed on the same test
    have hhandle := OpenTest.keepsHandle_closeStep status stop none c.test
    have hrest := ih hclosed
    simp only [Current.handle, hhandle] at hrest
    refine hrest.trans ?_
    rw [List.replicate_succ, List.append_cons]
    exact congrArg (· ++ _) (callsOn_changeTest hc _ _)

/-- The ending closes the open steps, one call for each, before the test is stopped. -/
private theorem exists_closed (isAfterAll : String → Bool) (hc : st.current = some c)
    (hended : c.ended = false) (e : TestEnding) :
    ∃ c', (st.step isAfterAll (.testEnd e)).current = some c'
      ∧ c'.handle = c.handle
      ∧ c'.ended = true
      ∧ c'.test.openSteps = []
      ∧ c'.test.result.contents = c.test.outlook (some ⟨e.status, e.stop, none⟩) []
      ∧ callsOn c.handle (st.step isAfterAll (.testEnd e)).calls
        = callsOn c.handle st.calls ++ List.replicate c.test.openSteps.length .applyMessages
          ++ [.updateTest, .stopTest] := by
  obtain ⟨t, ended⟩ := c
  obtain rfl : ended = false := hended
  have hcurrent : (st.step isAfterAll (.testEnd e)).current
      = some (Current.after st.next ⟨t, false⟩ (.testEnd e)) := by
    rw [current_step rfl, hc, Option.map_some]
  obtain ⟨hopen, hcontents⟩ := t.contents_closeSteps e.status e.stop rfl
  refine ⟨_, hcurrent, Current.handle_after _ _ _, rfl, hopen, hcontents, ?_⟩
  -- the steps are closed first, and then the ending is set
  have hclosed := current_closeSteps hc e.status e.stop t.openSteps.length
  have hupdated := current_changeTest hclosed .updateTest (·.update (·.ended e))
  -- the closing of the steps, the change and the stop are calls with one and the same handle
  have hhandle : (t.closeSteps e.status e.stop t.openSteps.length).result.handle
      = t.result.handle := OpenTest.keepsHandle_closeSteps _ _ _ t
  have hcalls := callsOn_closeSteps hc e.status e.stop t.openSteps.length
  have hcalls' := callsOn_changeTest hclosed .updateTest (·.update (·.ended e))
  have hcalls'' := callsOn_stopTest hupdated (some e.stop) e.duration
  have hhandle' : Current.handle ⟨(t.closeSteps e.status e.stop t.openSteps.length).update
      (·.ended e), false⟩ = t.result.handle := hhandle
  simp only [Current.handle, hhandle] at hcalls hcalls'
  rw [hhandle'] at hcalls''
  simp only [step, endTest, hc]
  rw [show Current.handle ⟨t, false⟩ = t.result.handle from rfl, hcalls'', hcalls', hcalls]
  simp only [List.append_assoc, List.cons_append, List.nil_append]

/-! ### The rest of the replay -/

/-- The last call with a test is the one that writes it. -/
private theorem callsOn_of_finalized {st' : Standing} (hs : st.Sound) (hc : st.current = some c)
    (hm : Moves st.finalize st') :
    callsOn c.handle st'.calls = callsOn c.handle st.calls ++ [.writeTest] := by
  -- the scope is written before the test, and is another handle
  have hfinal : callsOn c.handle st.finalize.calls = callsOn c.handle st.calls ++ [.writeTest] := by
    simp only [finalize, writeTest, hc, current_closeScope, callsOn_snoc_self,
      callsOn_closeScope hs hc]
  -- a test that is written is not held any more, so no later call is on it
  have hheld : c.handle ∉ st.finalize.held := by
    have hs' := (Move.closeScope st).sound hs
    have hc' : st.closeScope.current = some c := (current_closeScope st).trans hc
    simp only [finalize, hc, writeTest, hc', held, Option.toList_none, List.map_nil,
      List.nil_append, List.mem_append, List.mem_map, not_or]
    constructor
    · rintro ⟨s, hmem, heq⟩
      exact hs'.ne_of_mem_scopes hc' hmem heq
    · exact fun hmem => hs'.ne_of_mem_running hc' hmem rfl
  -- nor is it drawn again
  have hdrawn : c.handle.IsBefore st.finalize.drawn :=
    (hs.drawn _ (by simp [held, hc])).mono (Moves.drawn_le (moves_finalize st))
  rw [Moves.callsOn_eq hm hheld hdrawn, hfinal]

end Standing

/-! ### The steps of a written test -/

namespace TestRun

/-- The messages after the first ending. -/
def afterEnding (run : TestRun) : List Message :=
  (run.window.dropWhile (·.ending?.isNone)).tail

/-- How the first ending closes the steps that are open. -/
def forced (run : TestRun) : Option StepClosing :=
  run.ending.map fun e => ⟨e.status, e.stop, none⟩

/-- The calls with a test in the window of its start, if that many steps are open at its ending. -/
def operations (run : TestRun) (opened : Nat) : List Operation :=
  run.beforeEnding.filterMap (·.operation? false)
    ++ match run.ending with
      | none => []
      | some _ => List.replicate opened .applyMessages ++ [.updateTest, .stopTest]
          ++ run.afterEnding.filterMap (·.operation? true)

/-- Whether a written test has the steps and attachments that its window tells. -/
structure Contains (run : TestRun) (attachments : List (String × Bytes))
    (calls : List (Operation × Handle)) (before after : List StepMark) (r : TestResult) : Prop where
  markedBefore : Marked attachments run.beforeEnding before
  markedAfter : Marked attachments run.afterEnding after
  /-- The marks are read as brackets. The ending closes what is open, the end of the log does
  not. -/
  contents : r.contents = contentsOf run.forced before ++ contentsOf none after
  /-- No start is lost, and none told twice. -/
  starts : (everyStepIn r.steps).map (fun s => (s.name, s.start))
    = run.window.filterMap (·.stepStart?)
  /-- What is started before the ending is finished. -/
  finished : run.ending.isSome → ∀ s ∈ everyStepIn (contentsOf run.forced before).steps, s.Finished
  /-- What is started after it goes on running, unless it is stopped. -/
  unfinished : (∀ s ∈ everyStepIn (contentsOf none after).steps, s.Finished ∨ s.Unfinished)
    ∧ ((everyStepIn (contentsOf none after).steps).filter (·.stage = .running)).length
      = openAfter after
  /-- The ending closes as many steps as are open, before the test is stopped. -/
  calls : callsOn r.handle calls
    = .startTest :: run.operations (openAfter before) ++ [.writeTest]

/-- No message before the ending is one. -/
private theorem ending?_of_mem_beforeEnding {run : TestRun} {m : Message}
    (hm : m ∈ run.beforeEnding) :
    m.ending? = none := by
  rw [beforeEnding] at hm
  have hnone := List.mem_takeWhile_imp hm
  exact Option.isNone_iff_eq_none.1 hnone

/-- A window is what stands before the first ending, the ending, and what stands after it. -/
private theorem window_eq (run : TestRun) :
    run.ending = none ∧ run.window = run.beforeEnding ∧ run.afterEnding = []
      ∨ ∃ e, run.ending = some e
        ∧ run.window = run.beforeEnding ++ .testEnd e :: run.afterEnding := by
  have hsplit : run.beforeEnding ++ run.window.dropWhile (·.ending?.isNone) = run.window :=
    List.takeWhile_append_dropWhile
  -- nothing before the ending ends the test
  have hbefore : run.beforeEnding.findSome? (·.ending?) = none :=
    List.findSome?_eq_none_iff.2 fun m => ending?_of_mem_beforeEnding
  have hhead := List.head?_dropWhile_not (fun m : Message => m.ending?.isNone) run.window
  simp only [afterEnding]
  -- the first message that is left is the ending, if one is left
  cases hrest : run.window.dropWhile (·.ending?.isNone) with
  | nil =>
    rw [hrest, List.append_nil] at hsplit
    refine .inl ⟨?_, hsplit.symm, rfl⟩
    rw [ending, ← hsplit, hbefore]
  | cons m rest =>
    rw [hrest] at hsplit hhead
    obtain ⟨e, he⟩ := Option.isSome_iff_exists.1 (by simpa using hhead)
    obtain rfl := Message.eq_testEnd he
    refine .inr ⟨e, ?_, hsplit.symm⟩
    rw [ending, ← hsplit, List.findSome?_append, hbefore]
    rfl

/-- The steps that start in a window start before the ending or after it. -/
private theorem filterMap_stepStart_window (run : TestRun) :
    run.window.filterMap (·.stepStart?)
      = run.beforeEnding.filterMap (·.stepStart?) ++ run.afterEnding.filterMap (·.stepStart?) := by
  rcases run.window_eq with ⟨-, hwindow, hafter⟩ | ⟨e, -, hwindow⟩
  · rw [hwindow, hafter]
    exact (List.append_nil _).symm
  · rw [hwindow, List.filterMap_append]
    rfl

/-- What is known of the contents of a test and of the calls with it says that the rest holds
too. -/
private theorem Contains.of_contents {run : TestRun} {attachments : List (String × Bytes)}
    {calls : List (Operation × Handle)} {before after : List StepMark} {r : TestResult}
    (hbefore : Marked attachments run.beforeEnding before)
    (hafter : Marked attachments run.afterEnding after)
    (hcontents : r.contents = contentsOf run.forced before ++ contentsOf none after)
    (hcalls : callsOn r.handle calls
      = .startTest :: run.operations (openAfter before) ++ [.writeTest]) :
    run.Contains attachments calls before after r := by
  refine
    { markedBefore := hbefore
      markedAfter := hafter
      contents := hcontents
      starts := ?_
      finished := fun hsome => ?_
      unfinished := unfinished_contentsOf after
      calls := hcalls }
  -- the starts are told by the marks, and the marks by the window
  · have hsteps : r.steps = (contentsOf run.forced before).steps ++ (contentsOf none after).steps :=
      congrArg (·.steps) hcontents
    rw [hsteps, everyStepIn_append, List.map_append, starts_contentsOf, starts_contentsOf,
      hbefore.starts, hafter.starts, filterMap_stepStart_window]
  -- with an ending, the steps that it closes are those left open before it
  · obtain ⟨e, he⟩ := Option.isSome_iff_exists.1 hsome
    rw [forced, he, Option.map_some]
    exact finished_contentsOf _ before

end TestRun

/-- Nothing is added by empty contents. -/
private theorem Contents.append_empty (c : Contents) : c ++ ({} : Contents) = c := by
  simp [Contents.append_def]

/-- A test that has just been opened has nothing in it. -/
private theorem TestRun.outlook_opened (run : TestRun) (h : Handle) (atEnd : Option StepClosing)
    (marks : List StepMark) : (run.opened h).test.outlook atEnd marks = contentsOf atEnd marks :=
  (OpenTest.outlook_of_closed _ atEnd marks rfl).trans rfl

namespace Standing

variable {st : Standing} {isAfterAll : String → Bool} {c : Current}

/-- Where no test ends, the whole window stands before the ending. -/
private theorem Recounts.exists_marks_of_no_ending {final : Standing} {run : TestRun}
    {r : TestResult} (h : Recounts isAfterAll final run r st c)
    {attachments : List (String × Bytes)}
    (hkept : ∀ source content, (source, content) ∈ (st.steps isAfterAll run.window).attachments →
      attachments.lookup source = some content)
    (hnone : run.ending = none) (hwindow : run.window = run.beforeEnding) :
    ∃ before, Marked attachments run.beforeEnding before
      ∧ c.test.outlook none [] = contentsOf run.forced before
      ∧ callsOn r.handle (st.steps isAfterAll run.window).calls
        = .startTest :: run.operations (openAfter before) := by
  obtain ⟨marks, c', hgrown⟩ := exists_grown h.sound h.opened h.window
    (.inl fun m hm => TestRun.ending?_of_mem_beforeEnding (hwindow ▸ hm)) hkept
  obtain rfl : c' = c := Option.some.inj (hgrown.current.symm.trans h.closed)
  have hcalls := hgrown.calls
  refine ⟨marks, hwindow ▸ hgrown.marked, ?_, ?_⟩
  · rw [hgrown.outlook, TestRun.outlook_opened, List.append_nil, TestRun.forced, hnone]
    rfl
  · rw [TestRun.operations, hnone, ← hwindow, List.append_nil]
    exact hcalls.trans (congrArg (· ++ _) h.calls)

/-- Where a test ends, the steps that are open then are closed, and none of them is open after. -/
private theorem Recounts.exists_marks_of_ending {final : Standing} {run : TestRun} {r : TestResult}
    (h : Recounts isAfterAll final run r st c) {attachments : List (String × Bytes)}
    (hkept : ∀ source content, (source, content) ∈ (st.steps isAfterAll run.window).attachments →
      attachments.lookup source = some content)
    {e : TestEnding} (he : run.ending = some e)
    (hwindow : run.window = run.beforeEnding ++ .testEnd e :: run.afterEnding) :
    ∃ before after, Marked attachments run.beforeEnding before
      ∧ Marked attachments run.afterEnding after
      ∧ c.test.outlook none [] = contentsOf run.forced before ++ contentsOf none after
      ∧ callsOn r.handle (st.steps isAfterAll run.window).calls
        = .startTest :: run.operations (openAfter before) := by
  have hclosed := h.closed
  have hfinalizes := h.window
  rw [hwindow] at hclosed hfinalizes hkept ⊢
  rw [steps_append, steps_cons] at hclosed hkept ⊢
  have hmovesEnd := moves_step isAfterAll (.testEnd e) (st.steps isAfterAll run.beforeEnding)
  have hmovesAfter := moves_steps isAfterAll run.afterEnding
    ((st.steps isAfterAll run.beforeEnding).step isAfterAll (.testEnd e))
  -- up to the ending
  have hsBefore := Moves.sound (moves_steps isAfterAll run.beforeEnding st) h.sound
  obtain ⟨before, c₁, hbefore⟩ := exists_grown h.sound h.opened
    (fun m hm => hfinalizes m (List.mem_append_left _ hm))
    (.inl fun m => TestRun.ending?_of_mem_beforeEnding)
    (fun source content hmem => hkept source content
      (Moves.attachments_subset (hmovesEnd.trans hmovesAfter) hmem))
  -- the ending
  obtain ⟨c₂, hc₂, hhandle₂, hended₂, hopen₂, hcontents₂, hcalls₂⟩ :=
    exists_closed isAfterAll hbefore.current (hbefore.ended.trans rfl) e
  -- what comes after it, where a test that has ended ends no more
  obtain ⟨after, c₃, hafter⟩ := exists_grown (Moves.sound hmovesEnd hsBefore) hc₂
    (fun m hm => hfinalizes m (List.mem_append_right _ (List.mem_cons_of_mem _ hm)))
    (.inr hended₂) hkept
  obtain rfl : c₃ = c := Option.some.inj (hafter.current.symm.trans hclosed)
  refine ⟨before, after, hbefore.marked, hafter.marked, ?_, ?_⟩
  · rw [hafter.outlook, OpenTest.outlook_of_closed _ _ _ hopen₂, hcontents₂, hbefore.outlook,
      TestRun.outlook_opened, List.append_nil, List.append_nil, TestRun.forced, he]
    rfl
  · have hhandle₁ : c₁.handle = r.handle := hbefore.handle
    have hcallsBefore : callsOn r.handle (st.steps isAfterAll run.beforeEnding).calls
        = [.startTest] ++ run.beforeEnding.filterMap (·.operation? false) :=
      hbefore.calls.trans (congrArg (· ++ _) h.calls)
    have hcallsAfter := hafter.calls
    have hopened : c₁.test.openSteps.length = openAfter before := hbefore.openSteps
    rw [hhandle₁, hcallsBefore, hopened] at hcalls₂
    rw [hhandle₂, hhandle₁, hcalls₂, hended₂] at hcallsAfter
    rw [hcallsAfter, TestRun.operations, he]
    simp only [List.append_assoc, List.cons_append, List.nil_append]

/-- A test that is recounted by its run contains what the run says. -/
theorem Recounts.contains {final : Standing} {run : TestRun} {r : TestResult}
    (h : Recounts isAfterAll final run r st c) {attachments : List (String × Bytes)}
    (hkept : ∀ source content, (source, content) ∈ final.attachments →
      attachments.lookup source = some content) :
    ∃ before after, run.Contains attachments final.calls before after r := by
  have hhandle : r.handle = c.handle := by
    rw [h.written]
    exact c.test.handle_snapshot
  -- what was written is what stood open
  have hcontents : r.contents = c.test.outlook none [] := by
    rw [h.written]
    exact c.test.contents_snapshot
  -- after the window the test is written, and nothing else happens to it
  have hlast : callsOn r.handle final.calls
      = callsOn r.handle (st.steps isAfterAll run.window).calls ++ [.writeTest] := by
    rw [hhandle]
    exact callsOn_of_finalized (Moves.sound (moves_steps _ _ _) h.sound) h.closed h.final
  have hkept' : ∀ source content,
      (source, content) ∈ (st.steps isAfterAll run.window).attachments →
        attachments.lookup source = some content := fun source content hmem =>
    hkept source content
      (Moves.attachments_subset (.trans (moves_finalize _) h.final) hmem)
  rcases run.window_eq with ⟨hnone, hwindow, hafter⟩ | ⟨e, he, hwindow⟩
  -- without an ending the whole window is before it
  · obtain ⟨before, hbefore, houtlook, hcalls⟩ :=
      h.exists_marks_of_no_ending hkept' hnone hwindow
    refine ⟨before, [], .of_contents hbefore (hafter ▸ .nil) ?_ ?_⟩
    · rw [hcontents, houtlook]
      exact (Contents.append_empty _).symm
    · rw [hlast, hcalls]
  -- with an ending the window is what comes before and after it
  · obtain ⟨before, after, hbefore, hafter, houtlook, hcalls⟩ :=
      h.exists_marks_of_ending hkept' he hwindow
    refine ⟨before, after, .of_contents hbefore hafter (hcontents.trans houtlook) ?_⟩
    rw [hlast, hcalls]

end Standing

namespace Standing

variable {st st' : Standing}

/-- With a test no operation on fixtures is called. -/
private theorem Tracked.onFixture_eq_false (ht : st.Tracked) {h : Handle}
    (hstart : .startTest ∈ callsOn h st.calls) :
    ∀ op ∈ callsOn h st.calls, op.onFixture = false := by
  -- between its start and its end a test is updated, stopped or given messages
  have htest : ∀ op : Operation, op = .updateTest ∨ op = .stopTest ∨ op = .applyMessages →
      op.onFixture = false := by
    rintro op (rfl | rfl | rfl) <;> rfl
  -- the start tells whose handle it is, whether or not its life is complete
  by_cases hheld : h ∈ st.held
  · rw [← map_fst_nodes] at hheld
    obtain ⟨⟨h, k⟩, hn, rfl⟩ := List.mem_map.1 hheld
    have hbegun := ht.begun _ hn
    generalize callsOn h st.calls = ops at hbegun hstart
    -- a node that is held: only that of a test begins with such a start
    cases k with
    | scope =>
      obtain rfl := hbegun
      simp at hstart
    | test ended =>
      obtain ⟨rest, rfl, hrest, -⟩ := hbegun
      exact List.forall_mem_cons.2 ⟨rfl, fun op hop => htest op (hrest op hop)⟩
    | fixture =>
      obtain ⟨n, rfl⟩ := hbegun
      simp [List.mem_replicate] at hstart
  · have hcomplete := ht.complete h hheld
    generalize callsOn h st.calls = ops at hcomplete hstart
    -- a node that is not: only the life of a test has such a start
    cases hcomplete with
    | unused => cases hstart
    | scope => simp at hstart
    | test hops hstop =>
      simp only [List.cons_append, List.forall_mem_cons, List.forall_mem_append]
      exact ⟨rfl, fun op hop => htest op (hops op hop), rfl, nofun⟩
    | fixture n => simp [List.mem_replicate] at hstart

/-- Calls on fixtures may be left out before or after. -/
private theorem callsOn_filter (h : Handle) (calls : List (Operation × Handle)) :
    callsOn h (calls.filter fun call => !call.1.onFixture)
      = (callsOn h calls).filter fun op => !op.onFixture := by
  simp only [callsOn, List.filter_map, List.filter_filter, Function.comp_def, Bool.and_comm]

/-- Standings that differ in fixtures only have called the same with each test. -/
private theorem callsOn_eq_of_core (hcore : st.core = st'.core) (ht : st.Tracked)
    (ht' : st'.Tracked) {h : Handle} (hstart : .startTest ∈ callsOn h st'.calls) :
    callsOn h st.calls = callsOn h st'.calls := by
  -- the core has the calls that are not on fixtures
  have hfilter : (callsOn h st.calls).filter (fun op => !op.onFixture)
      = (callsOn h st'.calls).filter fun op => !op.onFixture := by
    rw [← callsOn_filter, ← callsOn_filter]
    exact congrArg (fun st => callsOn h st.calls) hcore
  -- and on the handle of a test there are no others
  have hsame' : (callsOn h st'.calls).filter (fun op => !op.onFixture) = callsOn h st'.calls :=
    List.filter_eq_self.2 fun op hop => by rw [ht'.onFixture_eq_false hstart op hop]; rfl
  have hstart' : .startTest ∈ callsOn h st.calls :=
    List.filter_subset_self _ (hfilter ▸ hsame'.symm ▸ hstart)
  have hsame : (callsOn h st.calls).filter (fun op => !op.onFixture) = callsOn h st.calls :=
    List.filter_eq_self.2 fun op hop => by rw [ht.onFixture_eq_false hstart' op hop]; rfl
  rw [← hsame, hfilter, hsame']

end Standing

/-- The replay of any log into a report between replays succeeds and writes one test for each start
in the log, in order, each with the steps and attachments that the window of its start tells. -/
theorem Machine.contains_of_replay {b : Backend} (hb : b.BetweenReplays)
    (isAfterAll : String → Bool) (synchronised : Bool) (contextId : String) (log : List Message) :
    ∃ p calls tests, Runs (Backend.machine isAfterAll synchronised).replay
        ⟨{ contextId := contextId, log := log }, b⟩ () p
      ∧ p.world.calls = b.calls ++ calls
      ∧ p.world.writtenTests = b.writtenTests ++ tests
      ∧ List.Forall₂
          (fun run r => ∃ before after,
            TestRun.Contains run p.world.attachments calls before after r)
          (testRuns isAfterAll log) tests := by
  have hmoves := (Standing.moves_steps isAfterAll log (.initial b)).trans (Standing.moves_drain _)
  have hcore := Standing.core_replay isAfterAll log (.initial b)
  have hsourced := Standing.Moves.sourced hmoves (Standing.sourced_initial b)
  -- every handle has its life both with and without the fixtures that are stopped
  have htracked := Standing.Moves.tracked hmoves (Standing.sound_initial b)
    (Standing.tracked_initial b)
  have htracked' := Standing.Moves.tracked (Standing.moves_replay isAfterAll log (.initial b))
    (Standing.sound_initial b) (Standing.tracked_initial b)
  refine ⟨_, _, _, runs_replay hb.idle isAfterAll synchronised contextId log, rfl, rfl, ?_⟩
  -- each window is known up to the last message; the fixtures that are stopped after it do not
  -- show in what is kept or in the calls with a test
  refine (Standing.forall₂_recounts b isAfterAll log).imp ?_
  rintro run r ⟨st, c, h⟩
  have hattachments : ((Standing.initial b).replay isAfterAll log).attachments
      = ((Standing.initial b).steps isAfterAll log).drain.attachments :=
    congrArg (·.attachments) hcore
  -- a source is kept once, so looking it up gives its content
  have hkept : ∀ source content,
      (source, content) ∈ ((Standing.initial b).steps isAfterAll log).drain.attachments →
        (((Standing.initial b).replay isAfterAll log).attachments ++ b.attachments).lookup source
          = some content := fun source content hmem => by
    have hlookup := lookup_of_mem hsourced.nodup hmem
    rw [List.lookup_append, hattachments, hlookup]
    rfl
  obtain ⟨before, after, hcontains⟩ := h.contains hkept
  refine ⟨before, after, .of_contents hcontains.markedBefore hcontains.markedAfter
    hcontains.contents ?_⟩
  refine (Standing.callsOn_eq_of_core hcore htracked' htracked ?_).trans hcontains.calls
  rw [hcontains.calls]
  exact List.mem_cons_self

/-- A test with a step that its ending closes, and one that nothing closes. -/
theorem Machine.contains_of_open_steps :
    (Backend.inMemory {}).BetweenReplays ∧ ∃ p r,
      Runs (Backend.machine (fun _ => false) true).replay
        ⟨{ contextId := "main"
           log := [.testStart "a" 1, .entry (.stepStart "s" 2), .entry (.stepStart "t" 3),
             .entry (.stepStop .passed 4 none), .testEnd { status := .failed, stop := 5 },
             .entry (.stepStart "u" 6)] },
          .inMemory {}⟩ () p
      ∧ p.world.writtenTests = [r]
      ∧ (everyStepIn r.steps).map (fun s => (s.name, s.start))
        = [("s", 2), ("t", 3), ("u", 6)] := by
  have hb := Backend.BetweenReplays.fresh {}
  obtain ⟨p, calls, tests, hruns, -, hwritten, htests⟩ :=
    contains_of_replay hb (fun _ => false) true "main"
      [.testStart "a" 1, .entry (.stepStart "s" 2), .entry (.stepStart "t" 3),
        .entry (.stepStop .passed 4 none), .testEnd { status := .failed, stop := 5 },
        .entry (.stepStart "u" 6)]
  -- one window, and so one test
  cases htests with
  | cons hcontains hrest =>
    cases hrest
    obtain ⟨before, after, hcontains⟩ := hcontains
    exact ⟨hb, p, _, hruns, hwritten, hcontains.starts⟩

end Chronicle
