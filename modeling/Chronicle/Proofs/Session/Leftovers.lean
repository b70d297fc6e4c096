import Chronicle.Proofs.Session.Recording

/-!
# Calls that fail

A call adds its messages one after another and takes none of them back. So one that fails leaves
those that it had added before, in the log of the active context, and nothing else: no other log
changes, and no package. `Call.returns_or_failed` says this of every call in every state, and what
the call fails for.

Most calls have nothing that they could leave. Those that do are the staged ones: they make up for a
start that is missing, or they name a test before they look at its file.
-/
namespace Chronicle

namespace Recorder

variable {r r' : Recorder} {ms : List Message}

/-- If only the first of several messages can break a rule, none comes before one that does. -/
private theorem soundPart_eq_nil {d : Defect} (hsome : firstDefect ms = some d)
    (htail : firstDefect ms.tail = none) : soundPart ms = [] := by
  cases ms with
  | nil => rfl
  | cons m rest =>
    have hbroken : ¬m.Sound := by
      intro hsound
      rw [firstDefect, List.findSome?_cons, show m.defect? = none from hsound] at hsome
      cases htail.symm.trans hsome
    simp [soundPart, hbroken]

/-- An action that adds nothing that breaks a rule returns. -/
theorem Adds.returns {α : Type} {act : Recording α} {n : Nat} (h : Adds ms n act r)
    (hms : firstDefect ms = none) : ∃ a r', Runs act r a r' := by
  rw [Adds] at h
  cases hact : act r with
  | ok a r' => exact ⟨a, r', hact⟩
  | error e r' =>
    simp only [hact, hms] at h
    cases h.1

namespace Call

variable {call : Call}

/-- What a call fails for, if it does: a test without a name is skipped, a file names no package, or
else a message breaks a rule. -/
def fault? (r : Recorder) (call : Call) : Option RecordError :=
  match call with
  | .skipTest none _ =>
    if r.hasPending .test then (firstDefect (call.messages r)).map .defect else some .unnamedSkip
  | .addTestInfo _ none => none
  | .addTestInfo _ (some file) =>
    if file ≠ "" ∧ packageOf (Path.ofText file) = none then some (.unnamedFile (Path.ofText file))
    else none
  | call => (firstDefect (call.messages r)).map .defect

/-- The messages that a call adds before it comes to one that breaks a rule. -/
def begun (r : Recorder) (call : Call) : List Message :=
  soundPart (call.messages r)

/-- Whether a call adds something before it comes to what it may fail for. -/
def isStaged (r : Recorder) : Call → Bool
  | .addTestInfo .. => true
  | .failTest .. | .skipTest .. => !r.hasPending .test
  | .endHook _ error .. => error.isSome && !r.hasPending .hook
  | _ => false

/-- What a call that fails has done. A suite that does not start is not told about: its name may be
among the open ones. -/
structure Failed (call : Call) (r : Recorder) (e : RecordError) (r' : Recorder) : Prop where
  fault : call.fault? r = some e
  chosen : r'.chosen = r.chosen
  packages : r'.packages = r.packages
  suiteNames : (∀ name isFeature, call ≠ .startSuite name isFeature) →
    r'.suiteNames = r.suiteNames
  otherNames : ∀ id, id ≠ r.context → r'.suiteNames id = r.suiteNames id
  logOf : ∀ id, r'.registry.logOf id
    = r.registry.logOf id ++ if id = r.context then call.begun r else []
  nothing : call.isStaged r = false → ∀ id, r'.registry.logOf id = r.registry.logOf id

private theorem fault?_of_isPlain (hplain : call.isPlain r = true) :
    call.fault? r = (firstDefect (call.messages r)).map .defect := by
  cases call with
  | addTestInfo => cases hplain
  | skipTest name start =>
    cases name with
    | some name => rfl
    | none => exact if_pos hplain
  | _ => rfl

/-- What a call that is not staged adds after its first message breaks no rule. -/
private theorem firstDefect_tail_messages (hstaged : call.isStaged r = false) :
    firstDefect (call.messages r).tail = none := by
  cases call with
  | addTestInfo => cases hstaged
  | failTest | skipTest =>
    -- the test has been started, so the start that would come first is not made up
    have hpending : r.hasPending .test = true := by simpa [isStaged] using hstaged
    simp only [messages, hpending, if_true]
    rfl
  | endHook name error kind start stop duration =>
    -- a hook that is not staged adds its end and nothing else
    have hfound : (error.isSome && !r.hasPending .hook) = false := hstaged
    have htest : (error.isSome && !r.hasPending .test && !r.hasPending .hook) = false := by
      rw [Bool.and_right_comm, hfound, Bool.false_and]
    simp only [messages, htest, hfound, Bool.false_eq_true, if_false, List.nil_append]
    split <;> rfl
  | addLabels | addParameters | startHook =>
    simp only [messages]
    split <;> rfl
  | _ => rfl

/-- Nothing but messages has been added, but for the name of a suite that does not start. -/
private theorem Failed.of_wrote {e : RecordError} {k : Nat} {names : String → List String}
    (hfault : call.fault? r = some e)
    (hnames : (∀ name isFeature, call ≠ .startSuite name isFeature) → names = r.suiteNames)
    (hothers : ∀ id, id ≠ r.context → names id = r.suiteNames id)
    (hnothing : call.isStaged r = false → call.begun r = [])
    (hwrote : Wrote (call.begun r) k { r with suiteNames := names } r') :
    call.Failed r e r' := by
  have hlog : ∀ id, r'.registry.logOf id
      = r.registry.logOf id ++ if id = r.context then call.begun r else [] := hwrote.logOf
  obtain ⟨uses, -, -, rfl⟩ := hwrote
  exact
    { fault := hfault
      chosen := rfl
      packages := rfl
      suiteNames := hnames
      otherNames := hothers
      logOf := hlog
      nothing := fun hstaged id => by rw [hlog, hnothing hstaged, ite_self, List.append_nil] }

theorem returns_or_failed_of_isPlain (hplain : call.isPlain r = true) :
    (call.fault? r = none ∧ ∃ answer r', Runs call.perform r answer r')
      ∨ ∃ e r', call.perform r = .error e r' ∧ call.Failed r e r' := by
  obtain ⟨n, hadds⟩ := adds_messages hplain
  have hfault := fault?_of_isPlain hplain
  rw [Adds] at hadds
  -- the messages are sound, or the first defect is the fault
  cases hact : call.perform r with
  | ok answer r' =>
    simp only [hact] at hadds
    rw [hfault, hadds.1]
    exact .inl ⟨rfl, answer, r', hact⟩
  | error e r' =>
    simp only [hact] at hadds
    obtain ⟨hdefect, k, hwrote⟩ := hadds
    obtain ⟨d, hd, -⟩ := Option.map_eq_some_iff.1 hdefect
    refine .inr ⟨e, r', rfl, ?_⟩
    apply Failed.of_wrote (hfault.trans hdefect) (fun _ => rfl) (fun _ _ => rfl) _ hwrote
    intro hstaged
    exact soundPart_eq_nil hd (firstDefect_tail_messages hstaged)

/-- The names of the open suites are changed before the start is looked at. -/
theorem returns_or_failed_startSuite (name : String) (isFeature : Bool) (r : Recorder) :
    ((startSuite name isFeature).fault? r = none
        ∧ ∃ answer r', Runs (startSuite name isFeature).perform r answer r')
      ∨ ∃ e r', (startSuite name isFeature).perform r = .error e r'
        ∧ (startSuite name isFeature).Failed r e r' := by
  -- the name is on the stack before the message is checked
  let r₁ : Recorder :=
    { r with suiteNames := fun id =>
        if id = r.context then r.suiteNames id ++ [name] else r.suiteNames id }
  have hchange : Runs (changeSuiteNames (· ++ [name])) r () r₁ := .change _ r
  have hpush := adds_push (.suiteStart name isFeature) r₁
  rw [Adds] at hpush
  cases hact : push (.suiteStart name isFeature) r₁ with
  -- the name is sound, and the call returns
  | ok a r' =>
    simp only [hact] at hpush
    have hruns : Runs (push (.suiteStart name isFeature)) r₁ a r' := hact
    refine .inl ⟨?_, none, r', (hchange.bind hruns).bind (.pure none r')⟩
    exact congrArg (Option.map RecordError.defect) hpush.1
  -- the name is not, and nothing is added to the log
  | error e r' =>
    simp only [hact] at hpush
    obtain ⟨hdefect, k, hwrote⟩ := hpush
    obtain ⟨d, hd, -⟩ := Option.map_eq_some_iff.1 hdefect
    have hfault : (startSuite name isFeature).fault? r = some e := hdefect
    refine .inr ⟨e, r', error_of_bind ((hchange.bind_eq _).trans hact) _, ?_⟩
    apply Failed.of_wrote hfault _ (fun id hid => if_neg hid) _ hwrote
    · intro hother
      exact absurd rfl (hother name isFeature)
    · intro _
      exact soundPart_eq_nil hd rfl

/-- A test is named before its file is looked at. -/
theorem returns_or_failed_addTestInfo (fullName : String) (file : Option String) (r : Recorder) :
    ((addTestInfo fullName file).fault? r = none
        ∧ ∃ answer r', Runs (addTestInfo fullName file).perform r answer r')
      ∨ ∃ e r', (addTestInfo fullName file).perform r = .error e r'
        ∧ (addTestInfo fullName file).Failed r e r' := by
  -- the name of the test is added before the file is looked at
  let r₁ : Recorder :=
    { r with registry := r.registry.push (some r.context) (.testInfo fullName) }
  have hinfo : Runs (push (.testInfo fullName)) r () r₁ := rfl
  have hnamed : Wrote [.testInfo fullName] 0 r r₁ := wrote_push hinfo
  cases file with
  -- without a file there is no package to be named
  | none => exact .inl ⟨rfl, none, r₁, (hinfo.bind (.pure () r₁)).bind (.pure none r₁)⟩
  | some file =>
    by_cases hfile : file = ""
    · subst hfile
      exact .inl ⟨rfl, none, r₁, (hinfo.bind (.pure () r₁)).bind (.pure none r₁)⟩
    · simp only [perform, Recorder.addTestInfo]
      cases hpackage : packageOf (Path.ofText file) with
      | none =>
        have hfault : (addTestInfo fullName (some file)).fault? r
            = some (.unnamedFile (Path.ofText file)) := if_pos ⟨hfile, hpackage⟩
        have hbegun : (addTestInfo fullName (some file)).begun r = [.testInfo fullName] := by
          simp [begun, messages, package?, hfile, hpackage, soundPart, Message.Sound,
            Message.defect?]
        refine .inr ⟨_, r₁, error_of_bind (hinfo.bind_eq _) _, ?_⟩
        apply Failed.of_wrote hfault (fun _ => rfl) (fun _ _ => rfl) (fun h => Bool.noConfusion h)
        rw [hbegun]
        exact hnamed
      | some package =>
        have hfault : (addTestInfo fullName (some file)).fault? r = none := by
          simp [fault?, hpackage]
        -- the label of a package breaks no rule, whether there is a test to label or not
        have hlabel : ∀ r₂ : Recorder, ∃ r', Runs (do
            if ← isPending .test then
              push (.entry (.metadata [LabelName.package.label package] []))) r₂ () r' := by
          intro r₂
          obtain ⟨p, r₃, hpending⟩ := (adds_isPending .test r₂).returns rfl
          cases p with
          | false => exact ⟨r₃, hpending.bind (.pure () r₃)⟩
          | true =>
            obtain ⟨_, r', hpush⟩ := (adds_push (.entry (.metadata
              [LabelName.package.label package] [])) r₃).returns rfl
            exact ⟨r', hpending.bind hpush⟩
        obtain ⟨r', hrest⟩ := hlabel { r₁ with
          packages := fun id => if id = r₁.context then some package else r₁.packages id }
        refine .inl ⟨hfault, none, r', Runs.bind (hinfo.bind (b := ()) ?_) (.pure none r')⟩
        exact Runs.bind (.change _ r₁) hrest

/-- A call returns or it fails, and what it fails for and what it then leaves is known. -/
theorem returns_or_failed (call : Call) (r : Recorder) :
    (call.fault? r = none ∧ ∃ answer r', Runs call.perform r answer r')
      ∨ ∃ e r', call.perform r = .error e r' ∧ call.Failed r e r' := by
  by_cases hplain : call.isPlain r = true
  · exact returns_or_failed_of_isPlain hplain
  · cases call with
    -- choosing a context and ending a suite always return
    | useContext contextId => exact .inl ⟨rfl, none, _, rfl⟩
    | startSuite name isFeature => exact returns_or_failed_startSuite name isFeature r
    | endSuite => exact .inl ⟨rfl, none, _, rfl⟩
    | addTestInfo fullName file => exact returns_or_failed_addTestInfo fullName file r
    -- a skip without a name fails if no test is pending
    | skipTest name start =>
      cases name with
      | some name => exact absurd rfl hplain
      | none =>
        have hpending : r.hasPending .test = false := Bool.eq_false_iff.2 hplain
        have hfault : (skipTest none start).fault? r = some .unnamedSkip := by
          simp [fault?, hpending]
        -- the start that is never added would have no name
        have hnothing : (skipTest none start).begun r = [] := by
          simp [begun, messages, hpending, startMessages, soundPart, Message.Sound,
            Message.defect?, Defect.ofName]
        obtain ⟨r', herror, hwrote⟩ := skipTest_eq_error hpending start
        refine .inr ⟨_, r', herror, ?_⟩
        apply Failed.of_wrote hfault (fun _ => rfl) (fun _ _ => rfl) (fun _ => hnothing)
        rw [hnothing]
        exact hwrote
    | _ => exact absurd rfl hplain

/-- A failed test that was never started has been started, and is not ended, if its stop is no
time. -/
theorem leftover_of_failTest :
    ∃ r', (failTest "a" .failed none (some 1) (some (-1)) none).perform
        (onto {} "python" "lifecycle-report" fun n => n)
        = .error (.defect (.negative .testEnd .stop)) r'
      ∧ Registry.logOf {} "0-0" = []
      ∧ r'.registry.logOf "0-0" = [.testStart "a" 1, .entry (.metadata
        [LabelName.language.label "python", LabelName.framework.label "lifecycle-report",
          LabelName.thread.label "0-0"] [])] := by
  refine ⟨_, rfl, rfl, ?_⟩
  decide

end Call

end Recorder

end Chronicle
