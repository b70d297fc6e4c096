import Chronicle.Proofs.Session.Placed
import Chronicle.Proofs.Session.Recording

/-!
# Labels of recorded tests

A recorder keeps the names of the open suites and the package of each context, apart from the log
that it writes there. What it keeps is what the log and the calls tell, so the labels that follow
the start of a test say where it stands: `Recorder.labels_agree`. In the report the test is listed
by just as many scopes.
-/
namespace Chronicle

/-! ### Labels as they should be -/

/-- The labels of a test that starts in a context inside these suites, after this package has been
named last and this feature has been started last. -/
def labelsAt (language framework contextId : String) (suites : List String)
    (package feature : Option String) : List Label :=
  (suites[0]?.map LabelName.parentSuite.label).toList
    ++ (suites[1]?.map LabelName.suite.label).toList
    ++ (if suites.length ≤ 2 then []
      else [LabelName.subSuite.label (" > ".intercalate (suites.drop 2))])
    ++ (package.map LabelName.package.label).toList
    ++ [LabelName.language.label language, LabelName.framework.label framework,
      LabelName.thread.label contextId]
    ++ (feature.map LabelName.feature.label).toList

/-- The first name is that of the outermost suite, and all from the third on stand together. -/
example : (labelsAt "python" "pytest" "main" ["a", "b", "c", "d"] (some "p") none).map (·.value)
    = ["a", "b", "c > d", "p", "python", "pytest", "main"] := by decide

/-- The first two suites have labels of their own, the others share one. -/
private theorem labelsOfSuites_eq (suites : List String) :
    Recorder.labelsOfSuites suites
      = (suites[0]?.map LabelName.parentSuite.label).toList
        ++ (suites[1]?.map LabelName.suite.label).toList
        ++ if suites.length ≤ 2 then []
          else [LabelName.subSuite.label (" > ".intercalate (suites.drop 2))] := by
  rcases suites with _ | ⟨a, _ | ⟨b, _ | ⟨c, rest⟩⟩⟩ <;> simp [Recorder.labelsOfSuites]

/-- The current feature is the last that the log tells. -/
private theorem currentFeature_eq (log : List Message) :
    currentFeature log = (log.filterMap (·.feature?)).getLast? := by
  rw [currentFeature, List.getLast?_filterMap]

/-- The packages that are named in a context, in order. -/
def packagesNamed (r : Registry) (id : String) : Option String → List Recorder.Call → List String
  | _, [] => []
  | chosen, call :: rest =>
    (if r.resolve chosen = id then call.package?.toList else [])
      ++ packagesNamed r id (call.chosenAfter chosen) rest

/-- Packages are named call by call, in the context that has been chosen by then. -/
private theorem packagesNamed_append (r : Registry) (id : String) (chosen : Option String)
    (calls calls' : List Recorder.Call) :
    packagesNamed r id chosen (calls ++ calls')
      = packagesNamed r id chosen calls
        ++ packagesNamed r id (calls.foldl Recorder.Call.chosenAfter chosen) calls' := by
  induction calls generalizing chosen with
  | nil => rfl
  | cons call rest ih => simp [packagesNamed, ih]

/-! ### What calls do to suites and tests -/

namespace Recorder

variable {call : Call} {calls : List Call} {answer : Option Bool} {r r' : Recorder}

/-- A message that neither starts nor ends a suite, and starts no test. -/
def IsPlain (m : Message) : Prop :=
  m.kind.isMarked = false

/-- A message inside a test opens and closes no suite. -/
private theorem isPlain_of_isInner (m : Message) (hm : m.isInner = true) : IsPlain m := by
  cases m with
  | suiteStart | suiteEnd | testStart | testEnd => cases hm
  | testInfo | hookStart | hookEnd => rfl
  | entry e => cases e <;> rfl

/-- Plain messages leave the open suites as they are. -/
private theorem openSuiteNames_append_of_isPlain {log ms : List Message}
    (hms : ∀ m ∈ ms, IsPlain m) :
    openSuiteNames (log ++ ms) = openSuiteNames log := by
  induction ms using List.reverseRecOn with
  | nil => rw [List.append_nil]
  | append_singleton ms m ih =>
    obtain ⟨hms, hm⟩ := List.forall_mem_append.1 hms
    rw [← List.append_assoc, openSuiteNames_snoc, ih hms]
    have hplain := hm m List.mem_cons_self
    cases m with
    | suiteStart | suiteEnd | testStart => cases hplain
    | testInfo | testEnd | hookStart | hookEnd | entry => rfl

/-- The start of a test is not plain. -/
private theorem not_isPlain_testStart (name : String) (start : Int) :
    ¬IsPlain (.testStart name start) :=
  nofun

namespace Call

/-- What a call does to suites and tests. Most calls leave the suites alone and start no test. If
they start one, they do it first. -/
inductive Marks (call : Call) (r : Recorder) : Prop
  | plain (hms : ∀ m ∈ call.messages r, IsPlain m) (hnames : ∀ names, call.namesAfter names = names)
  | test (name : String) (start : Int) (rest : List Message)
    (hms : call.messages r = r.startMessages name start ++ rest) (hrest : ∀ m ∈ rest, IsPlain m)
    (hnames : ∀ names, call.namesAfter names = names)
  | startSuite (name : String) (isFeature : Bool) (hcall : call = .startSuite name isFeature)
  | endSuite (hcall : call = .endSuite)

/-- What a call begins is one of a few patterns, for each kind of call. -/
theorem marks (call : Call) (r : Recorder) : call.Marks r := by
  have hone : ∀ {m : Message}, IsPlain m → ∀ m' ∈ [m], IsPlain m' := fun hm =>
    List.forall_mem_singleton.2 hm
  -- inner calls add messages without a mark and leave the names
  by_cases hinner : call.isInner r = true
  · refine .plain (fun m hm => isPlain_of_isInner m (isInner_of_mem_messages hinner m hm))
      fun _ => ?_
    cases call with
    | startSuite | endSuite => cases hinner
    | _ => rfl
  cases call with
  | startSuite name isFeature => exact .startSuite name isFeature rfl
  | endSuite => exact .endSuite rfl
  | startTest name start =>
    exact .test name (r.timeAfter 0 start) [] (List.append_nil _).symm (List.forall_mem_nil _)
      fun _ => rfl
  | endTest | passTest => exact .plain (hone rfl) fun _ => rfl
  | failTest name status details start stop duration =>
    cases hp : r.hasPending .test with
    | true =>
      refine .plain ?_ fun _ => rfl
      simp only [messages, hp, if_true]
      exact hone rfl
    | false =>
      -- a failure with no test pending is a test of its own
      refine .test name (r.timeAfter 0 start)
        [.testEnd ⟨status, r.timeAfter (readingsFor start) stop, some .finished, duration, details⟩]
        ?_ (hone rfl) fun _ => rfl
      simp only [messages, hp, Bool.false_eq_true, if_false]
  -- and so is a skip
  | skipTest name start =>
    cases hp : r.hasPending .test with
    | true =>
      refine .plain ?_ fun _ => rfl
      simp only [messages, hp, if_true]
      exact hone rfl
    | false =>
      refine .test (name.getD "") (r.timeAfter 0 start)
        [.testEnd ⟨.skipped, r.timeAfter (readingsFor start) none, some .pending, none, none⟩]
        ?_ (hone rfl) fun _ => rfl
      simp only [messages, hp, Bool.false_eq_true, if_false]
  | endHook name error kind start stop duration =>
    -- the hook has failed and breaks
    cases error with
    | none => exact (hinner rfl).elim
    | some details =>
      have hbreaks : r.breaksHook = true := by simpa [isInner] using hinner
      refine .test name _ _ (messages_endHook_of_breaks hbreaks name details kind start stop
        duration) ?_ fun _ => rfl
      simp [IsPlain, Message.kind, MessageKind.isMarked]
  | useContext | session | addTestInfo | addLabels | addParameters | markRetried | startStep
  | endStep | startHook | attach | attachText => exact (hinner rfl).elim

namespace Marks

/-- A test that starts is followed by its labels. -/
theorem starts (h : call.Marks r) {ms rest : List Message} {name : String} {start : Int}
    (hms : call.messages r = ms ++ .testStart name start :: rest) :
    ms = [] ∧ ∃ rest', .testStart name start :: rest = r.startMessages name start ++ rest' := by
  have hmem : Message.testStart name start ∈ call.messages r := by simp [hms]
  cases h with
  -- plain messages start no test
  | plain hplain => exact (not_isPlain_testStart name start (hplain _ hmem)).elim
  | test name' start' rest' htest hrest =>
    rw [htest] at hms
    cases ms with
    | nil =>
      obtain ⟨rfl, rfl⟩ := Message.testStart.inj (List.cons.inj hms).1
      exact ⟨rfl, rest', hms.symm⟩
    | cons m ms =>
      -- a second test would start after the first one
      have htail : _ :: rest' = ms ++ .testStart name start :: rest := (List.cons.inj hms).2
      have hlater : Message.testStart name start ∈ ms ++ .testStart name start :: rest := by simp
      rw [← htail] at hlater
      rcases List.mem_cons.1 hlater with hlabels | hlater
      · cases hlabels
      · exact (not_isPlain_testStart name start (hrest _ hlater)).elim
  | startSuite name' isFeature hcall =>
    subst hcall
    cases List.mem_singleton.1 hmem
  | endSuite hcall =>
    subst hcall
    cases List.mem_singleton.1 hmem

/-- The recorder changes the names of the open suites as its messages do. -/
private theorem openSuiteNames_append (h : call.Marks r) (log : List Message) :
    openSuiteNames (log ++ call.messages r) = call.namesAfter (openSuiteNames log) := by
  cases h with
  | plain hplain hnames => rw [hnames, openSuiteNames_append_of_isPlain hplain]
  | test name start rest htest hrest hnames =>
    -- neither the start of a test nor what follows it changes the names
    rw [hnames, htest, startMessages, List.cons_append, List.cons_append, List.nil_append,
      List.append_cons, openSuiteNames_append_of_isPlain, openSuiteNames_snoc]
    · rfl
    · exact List.forall_mem_cons.2 ⟨rfl, hrest⟩
  | startSuite name isFeature hcall =>
    subst hcall
    exact openSuiteNames_snoc log _
  | endSuite hcall =>
    subst hcall
    exact openSuiteNames_snoc log _

end Marks

end Call

/-! ### What a recorder keeps -/

/-- What a recorder keeps of the contexts is what the calls and the logs tell. -/
structure Accords (registry : Registry) (language framework : String) (calls : List Call)
    (r : Recorder) : Prop where
  defaultContext : r.registry.defaultContext = registry.defaultContext
  chosen : r.chosen = calls.foldl Call.chosenAfter none
  language : r.language = language
  framework : r.framework = framework
  suiteNames : ∀ id, r.suiteNames id = openSuiteNames (r.registry.logOf id)
  packages : ∀ id, r.packages id = (packagesNamed registry id none calls).getLast?

section

variable {defaultContext language framework : String} {registry : Registry} {clock : Nat → Int}

namespace Accords

/-- A new recorder has kept nothing yet. -/
theorem onto (hr : Registry.create defaultContext = .ok registry) (clock : Nat → Int) :
    Accords registry language framework [] (onto registry language framework clock) := by
  obtain ⟨-, rfl⟩ := Registry.eq_of_create hr
  exact ⟨rfl, rfl, rfl, rfl, fun _ => rfl, fun _ => rfl⟩

variable (h : Accords registry language framework calls r)

include h

/-- The active context is the one that the calls have chosen. -/
theorem context : r.context = registry.resolve (calls.foldl Call.chosenAfter none) := by
  rw [Recorder.context, h.chosen]
  simp only [Registry.resolve, h.defaultContext]

/-- All labels of a test that starts now. -/
theorem labels : r.testLabels
      ++ ((Chronicle.currentFeature r.log).map LabelName.feature.label).toList
    = labelsAt language framework r.context (openSuiteNames r.log)
      (packagesNamed registry r.context none calls).getLast?
      (r.log.filterMap (·.feature?)).getLast? := by
  rw [testLabels, suiteLabels, h.suiteNames, h.packages, h.language, h.framework, labelsOfSuites_eq,
    currentFeature_eq, labelsAt]
  rfl

/-- A recorder that agrees with its calls agrees after one more. -/
private theorem of_done (hcall : call.Done r answer r') :
    Accords registry language framework (calls ++ [call]) r' where
  defaultContext := hcall.defaultContext.trans h.defaultContext
  chosen := by rw [List.foldl_append, ← h.chosen]; exact hcall.chosen
  language := hcall.language.trans h.language
  framework := hcall.framework.trans h.framework
  suiteNames id := by
    rw [hcall.suiteNames, hcall.logOf]
    simp only [h.suiteNames]
    -- only the context that is chosen is written to
    by_cases hid : id = r.context
    · rw [if_pos hid, if_pos hid, (call.marks r).openSuiteNames_append]
    · rw [if_neg hid, if_neg hid, List.append_nil]
  packages id := by
    rw [hcall.packages, packagesNamed_append, List.getLast?_append, ← h.packages]
    simp only [packagesNamed, ← h.context, List.append_nil, @eq_comm _ r.context]
    by_cases hid : id = r.context
    · rw [if_pos hid, if_pos hid]
      cases call.package? <;> rfl
    · rw [if_neg hid, if_neg hid]
      rfl

end Accords

/-- A recorder agrees with the calls that have been made, by induction on them. -/
theorem accords (hr : Registry.create defaultContext = .ok registry)
    (h : Runs (performAll calls) (Recorder.onto registry language framework clock) () r) :
    Accords registry language framework calls r :=
  performAll_induction (Accords.onto hr clock)
    (fun _ _ _ _ _ _ haccords hcall => haccords.of_done (Call.done hcall)) calls r h

/-- Whether a test that comes after this log of a context is labelled for where it stands. One of
the calls has started it. Its labels tell the suites and the feature of the log, and the package
that calls before have named. -/
def IsLabelled (first : Recorder) (calls : List Call) (id : String) (log rest : List Message) :
    Prop :=
  ∃ before call after r rest', calls = before ++ call :: after
    ∧ Runs (performAll before) first () r ∧ r.context = id ∧ r.registry.logOf id = log
    ∧ rest = .entry (.metadata (labelsAt first.language first.framework id (openSuiteNames log)
        (packagesNamed first.registry id none before).getLast?
        (log.filterMap (·.feature?)).getLast?) []) :: rest'

/-- What comes later does not matter for the labels of a test. -/
theorem IsLabelled.append {first : Recorder} {id : String} {log rest : List Message}
    (h : IsLabelled first calls id log rest) (calls' : List Call) (ms : List Message) :
    IsLabelled first (calls ++ calls') id log (rest ++ ms) := by
  obtain ⟨before, call, after, r, rest', rfl, hbefore, hcontext, hlog, rfl⟩ := h
  exact ⟨before, call, after ++ calls', r, rest' ++ ms, by simp, hbefore, hcontext, hlog, rfl⟩

/-- What stands in two lists one behind the other stands in one of them. -/
private theorem split_of_append_eq {α : Type} {front back log rest : List α} {m : α}
    (h : front ++ back = log ++ m :: rest) :
    (∃ ms, log = front ++ ms ∧ back = ms ++ m :: rest)
      ∨ ∃ rest', front = log ++ m :: rest' ∧ rest = rest' ++ back := by
  rcases List.append_eq_append_iff.1 h with ⟨ms, hlog, hback⟩ | ⟨ms, hfront, hrest⟩
  · exact .inl ⟨ms, hlog, hback⟩
  · cases ms with
    | nil => exact .inl ⟨[], by simpa using hfront.symm, hrest.symm⟩
    | cons m' ms =>
      obtain ⟨rfl, rfl⟩ := List.cons.inj hrest
      exact .inr ⟨ms, hfront, rfl⟩

/-- Each test of a log has been labelled when it was started. -/
private theorem isLabelled (hr : Registry.create defaultContext = .ok registry)
    (h : Runs (performAll calls) (Recorder.onto registry language framework clock) () r) :
    ∀ id log name start rest, r.registry.logOf id = log ++ .testStart name start :: rest →
      IsLabelled (Recorder.onto registry language framework clock) calls id log rest := by
  refine performAll_induction (P := fun calls r => ∀ id log name start rest,
    r.registry.logOf id = log ++ .testStart name start :: rest →
      IsLabelled (Recorder.onto registry language framework clock) calls id log rest)
    ?_ ?_ calls r h
  · -- a new registry has no logs
    obtain ⟨-, rfl⟩ := Registry.eq_of_create hr
    intro id log name start rest hlog
    cases (List.append_eq_nil_iff.1 hlog.symm).2
  · intro calls call r₁ answer r₂ hcalls ih hcall id log name start rest hlog
    rw [(Call.done hcall).logOf] at hlog
    rcases split_of_append_eq hlog with ⟨ms, rfl, hms⟩ | ⟨rest', hold, rfl⟩
    · -- the messages of the call start the test
      by_cases hid : id = r₁.context
      · rw [if_pos hid] at hms
        obtain ⟨rfl, rest', hstarts⟩ := (call.marks r₁).starts hms
        obtain rfl := hid
        have haccords := accords hr hcalls
        refine ⟨calls, call, [], r₁, rest', rfl, hcalls, rfl, (List.append_nil _).symm, ?_⟩
        rw [List.append_nil, show r₁.registry.logOf r₁.context = r₁.log from rfl]
        exact (List.cons.inj hstarts).2.trans (by rw [haccords.labels]; rfl)
      · rw [if_neg hid] at hms
        cases (List.append_eq_nil_iff.1 hms.symm).2
    · -- the test was in the log before the call
      exact (ih id log name start rest' hold).append [call] _

/-- A recorder, the logs of a new registry and the report agree on where each test stands, whatever
is asked for in whatever contexts. The suites of a context are those that its log leaves open. A
test is labelled at once, for the suites, the package and the feature of its context. Nothing is
added to the log of another context. In the report, as many scopes list a test as there are suites
around it, and one more. -/
theorem labels_agree (hr : Registry.create defaultContext = .ok registry)
    (h : Runs (performAll calls) (Recorder.onto registry language framework clock) () r) :
    (∀ id, r.suiteNames id = openSuiteNames (r.registry.logOf id))
      ∧ (∀ id log name start rest, r.registry.logOf id = log ++ .testStart name start :: rest →
        IsLabelled (Recorder.onto registry language framework clock) calls id log rest)
      ∧ (∀ before call after, calls = before ++ call :: after → ∃ r₁ answer r₂,
        Runs (performAll before) (Recorder.onto registry language framework clock) () r₁
          ∧ Runs call.perform r₁ answer r₂ ∧ Runs (performAll after) r₂ () r
          ∧ ∀ id, id ≠ r₁.context → r₂.registry.logOf id = r₁.registry.logOf id)
      ∧ ∀ isAfterAll synchronised (b : Backend) (w : Workspace Desk), b.IsNew →
        Runs (Workspace.drainAll (Desk.machine isAfterAll synchronised))
          ⟨r.registry, { report := b }⟩ () w →
        List.Forall₂ (PlacedTest.IsListed w.world.report.writtenScopeResults)
          (r.registry.sessions.flatMap fun s => placedTests [] s.log)
          w.world.report.writtenTests := by
  refine ⟨(accords hr h).suiteNames, isLabelled hr h, ?_, ?_⟩
  · rintro before call after rfl
    exact exists_call h
  · intro isAfterAll synchronised b w hb hw
    obtain ⟨ids, hunread⟩ := exists_isUnread hr h
    have hforget := Workspace.forget_of_drainAll hunread hb hw
    have hplaces := (Backend.places_replayedAll isAfterAll r.registry.sessions).tests
    -- a report that goes to a directory has the same tests and scopes as one in memory
    rw [← hforget] at hplaces
    exact hplaces

end

/-- Two contexts. In one a suite ends that never started, a feature starts in its place, and a test
fails before it has started. -/
theorem labels_agree_in_two_contexts :
    Registry.create "0-0" = .ok {}
      ∧ ∃ (r : Recorder) (w : Workspace Desk) (log rest : List Message),
      Runs (performAll [.endSuite, .startSuite "outer" true,
          .addTestInfo "outer" (some "tests/first.py"), .useContext (some "1-0"),
          .startTest "b" (some 5), .useContext none, .startSuite "inner" false,
          .failTest "a" .failed none none none none])
        (Recorder.onto {} "python" "lifecycle-report" fun n => n) () r
      ∧ r.suiteNames "0-0" = ["outer", "inner"]
      ∧ r.registry.logOf "0-0" = log ++ .testStart "a" 0 :: rest
      ∧ IsLabelled (Recorder.onto {} "python" "lifecycle-report" fun n => n)
        [.endSuite, .startSuite "outer" true, .addTestInfo "outer" (some "tests/first.py"),
          .useContext (some "1-0"), .startTest "b" (some 5), .useContext none,
          .startSuite "inner" false, .failTest "a" .failed none none none none] "0-0" log rest
      ∧ (Backend.inMemory {}).IsNew
      ∧ Runs (Workspace.drainAll (Desk.machine (fun _ => false) true))
        ⟨r.registry, { report := .inMemory {} }⟩ () w
      ∧ List.Forall₂ (PlacedTest.IsListed w.world.report.writtenScopeResults)
        [⟨"a", 0, ["outer", "inner"]⟩, ⟨"b", 5, []⟩] w.world.report.writtenTests := by
  have hr : Registry.create "0-0" = .ok {} := rfl
  obtain ⟨r, hcalls, hlogs⟩ := exists_runs_of_computes
    (performAll [.endSuite, .startSuite "outer" true,
      .addTestInfo "outer" (some "tests/first.py"), .useContext (some "1-0"),
      .startTest "b" (some 5), .useContext none, .startSuite "inner" false,
      .failTest "a" .failed none none none none])
    (Recorder.onto {} "python" "lifecycle-report" fun n => n)
    (fun r => (r.registry.logOf "0-0").take 5
        = [.suiteEnd, .suiteStart "outer" true, .testInfo "outer", .suiteStart "inner" false,
          .testStart "a" 0]
      ∧ openSuiteNames (r.registry.logOf "0-0") = ["outer", "inner"]
      ∧ (r.registry.sessions.flatMap fun s => placedTests [] s.log)
        = [⟨"a", 0, ["outer", "inner"]⟩, ⟨"b", 5, []⟩])
    (by decide +kernel)
  obtain ⟨hlog, hnames, hplaced⟩ := of_decide_eq_true hlogs
  obtain ⟨ids, hunread⟩ := exists_isUnread hr hcalls
  obtain ⟨w, hw, -⟩ := Workspace.exists_runs_drainAll (fun _ => false) true hunread
  -- the log is taken apart at the start of the test
  have hsplit : r.registry.logOf "0-0" = [.suiteEnd, .suiteStart "outer" true, .testInfo "outer",
      .suiteStart "inner" false] ++ .testStart "a" 0 :: (r.registry.logOf "0-0").drop 5 := by
    rw [← List.take_append_drop 5 (r.registry.logOf "0-0"), hlog]
    simp
  obtain ⟨hsuites, hlabels, -, htests⟩ := labels_agree hr hcalls
  -- the drained report has both tests at their places
  have hplaces := htests (fun _ => false) true _ w (.inMemory {}) hw
  rw [hplaced] at hplaces
  exact ⟨hr, r, w, _, _, hcalls, (hsuites "0-0").trans hnames, hsplit,
    hlabels "0-0" _ "a" 0 _ hsplit, .inMemory {}, hw, hplaces⟩

end Recorder

end Chronicle
