import Chronicle.Proofs.Replay.Account
import Chronicle.Proofs.Replay.Nesting
import Chronicle.Session.Pending

/-!
# What the last message changes

Whether a span is pending, which suites are open and how the tests of a log have ended is all read
off whole logs. Here it is told what one more message makes of it. The suites that are open are
those whose start is matched by no end, as with parentheses: `openSuiteNames`. The ending of a test
is heard when a test is open and still pending: `endings_snoc`.
-/
namespace Chronicle

/-! ### Pending spans -/

private theorem lastPlace_snoc (kind : MessageKind) (log : List Message) (m : Message) :
    lastPlace kind (log ++ [m]) = if m.kind = kind then log.length + 1 else lastPlace kind log := by
  induction log with
  | nil => rfl
  | cons m' rest ih =>
    rw [List.cons_append, lastPlace, ih, lastPlace]
    by_cases hm : m.kind = kind <;> simp [hm]

private theorem lastPlace_le (kind : MessageKind) (log : List Message) :
    lastPlace kind log ≤ log.length := by
  induction log using List.reverseRecOn with
  | nil => exact Nat.le_refl 0
  | append_singleton log m ih =>
    rw [lastPlace_snoc, List.length_append]
    split
    · exact Nat.le_refl _
    · exact Nat.le_succ_of_le ih

theorem Span.opens_ne_closes (span : Span) : span.opens ≠ span.closes := by
  cases span <;> decide

theorem isPending_snoc (span : Span) (log : List Message) (m : Message) :
    isPending span (log ++ [m])
      = if m.kind = span.opens then true else if m.kind = span.closes then false
        else isPending span log := by
  have hopens := lastPlace_le span.opens log
  have hcloses := lastPlace_le span.closes log
  simp only [isPending, lastPlace_snoc]
  -- the new message is later than all others
  by_cases hm : m.kind = span.opens
  · have hne : m.kind ≠ span.closes := hm ▸ span.opens_ne_closes
    simp only [if_pos hm, if_neg hne]
    exact decide_eq_true (by omega)
  · by_cases hm' : m.kind = span.closes
    · simp only [if_neg hm, if_pos hm']
      exact decide_eq_false (by omega)
    · simp only [if_neg hm, if_neg hm']

/-! ### Open suites -/

/-- How many ends of suites in a log have no start there that they match. -/
def unmatchedEnds : List Message → Nat
  | [] => 0
  | .suiteStart .. :: rest => unmatchedEnds rest - 1
  | .suiteEnd :: rest => unmatchedEnds rest + 1
  | _ :: rest => unmatchedEnds rest

/-- The names of the suites whose start is matched by no end, in order. -/
def openSuiteNames : List Message → List String
  | [] => []
  | .suiteStart name _ :: rest =>
    if unmatchedEnds rest = 0 then name :: openSuiteNames rest else openSuiteNames rest
  | _ :: rest => openSuiteNames rest

/-- The names of the open suites after a message, the outermost first. -/
def Message.nextNames (names : List String) : Message → List String
  | .suiteStart name _ => names ++ [name]
  | .suiteEnd => names.dropLast
  | _ => names

/-- Ends that match nothing in a log close what was open before. -/
private theorem foldl_nextNames (log : List Message) (names : List String) :
    log.foldl Message.nextNames names
      = names.take (names.length - unmatchedEnds log) ++ openSuiteNames log := by
  induction log generalizing names with
  | nil => simp [unmatchedEnds, openSuiteNames]
  | cons m rest ih =>
    rw [List.foldl_cons, ih]
    cases m with
    | suiteStart name isFeature =>
      simp only [Message.nextNames, unmatchedEnds, openSuiteNames, List.length_append,
        List.length_singleton]
      by_cases hrest : unmatchedEnds rest = 0
      · rw [if_pos hrest, hrest, List.take_of_length_le (by simp), List.take_of_length_le (by simp),
          List.append_assoc]
        rfl
      · -- the suite is closed again, and perhaps more than that
        rw [if_neg hrest, List.take_append_of_le_length (by omega)]
        congr 2
        omega
    -- an end takes the last name, or one of those from before
    | suiteEnd =>
      simp only [Message.nextNames, unmatchedEnds, openSuiteNames, List.dropLast_eq_take,
        List.take_take, List.length_take]
      congr 2
      omega
    | testStart | testInfo | testEnd | hookStart | hookEnd | entry => rfl

theorem openSuiteNames_snoc (log : List Message) (m : Message) :
    openSuiteNames (log ++ [m]) = m.nextNames (openSuiteNames log) := by
  have hfold : ∀ log : List Message, openSuiteNames log = log.foldl Message.nextNames [] :=
    fun log => by rw [foldl_nextNames, List.take_nil, List.nil_append]
  rw [hfold, hfold, List.foldl_append]
  rfl

/-- A suite is open while one is pending. -/
theorem openSuiteNames_ne_nil {log : List Message} (hlog : isPending .suite log = true) :
    openSuiteNames log ≠ [] := by
  induction log using List.reverseRecOn with
  | nil => cases hlog
  | append_singleton log m ih =>
    rw [isPending_snoc] at hlog
    rw [openSuiteNames_snoc]
    cases m with
    -- the suite that was started last is open
    | suiteStart name isFeature => exact List.append_ne_nil_of_right_ne_nil _ (List.cons_ne_nil _ _)
    | suiteEnd => cases hlog
    | testStart | testInfo | testEnd | hookStart | hookEnd => exact ih hlog
    | entry e => cases e <;> exact ih hlog

/-- The suites that are open are as many as the scopes that are open for them. -/
theorem length_openSuites {log : List Message} {marks : List Mark}
    (hkinds : marks.map (·.kind) = (log.map (·.kind)).filter (·.isMarked)) :
    (openSuites marks).length = (openSuiteNames log).length := by
  induction log using List.reverseRecOn generalizing marks with
  | nil =>
    obtain rfl := List.map_eq_nil_iff.1 hkinds
    rfl
  | append_singleton log m ih =>
    rw [List.map_append, List.filter_append] at hkinds
    obtain ⟨marks, last, rfl, hmarks, hlast⟩ := List.map_eq_append_iff.1 hkinds
    have hlength := ih hmarks
    rw [openSuiteNames_snoc]
    cases hm : m.kind.isMarked with
    | false =>
      -- the message has no mark and changes nothing
      obtain rfl : last = [] := by simpa [hm] using hlast
      rw [List.append_nil, hlength]
      cases m <;> first | rfl | cases hm
    | true =>
      -- the message has one mark, of the same kind
      obtain ⟨mark, rfl, hmark⟩ : ∃ mark, last = [mark] ∧ mark.kind = m.kind := by
        simpa [hm, List.map_eq_singleton_iff, and_comm] using hlast
      rw [openSuites_snoc]
      cases m with
      | suiteStart | suiteEnd | testStart =>
        cases mark <;> cases hmark
        simp [Mark.next, Message.nextNames, hlength]
      | testInfo | testEnd | hookStart | hookEnd => cases hm
      | entry e => cases e <;> cases hm

/-- The second end of a suite matches nothing, so the next start is open. -/
example : openSuiteNames [.suiteStart "a" true, .suiteStart "b" false, .suiteEnd, .suiteEnd,
    .suiteEnd, .suiteStart "c" false] = ["c"] := by decide

/-! ### Tests and their endings -/

/-- Whether a test is open at the end of a log: the last message that finalizes has started one. -/
def testIsOpen (isAfterAll : String → Bool) (log : List Message) : Bool :=
  match (log.filter (·.finalizes isAfterAll)).getLast? with
  | some (.testStart ..) => true
  | _ => false

/-- The endings that are heard in a log, one at most for each test. -/
def endings (isAfterAll : String → Bool) (log : List Message) : List TestEnding :=
  (testRuns isAfterAll log).filterMap (·.ending)

/-- The tests of a log, where the one that is still open is kept apart. -/
structure TestLog where
  closed : List TestRun := []
  current : Option TestRun := none

namespace TestLog

/-- All tests. -/
def runs (t : TestLog) : List TestRun :=
  t.closed ++ t.current.toList

/-- The tests after one more message. -/
def next (isAfterAll : String → Bool) (t : TestLog) (m : Message) : TestLog :=
  if m.finalizes isAfterAll then
    match m with
    | .testStart name start => ⟨t.runs, some ⟨name, start, []⟩⟩
    | _ => ⟨t.runs, none⟩
  else ⟨t.closed, t.current.map (·.snoc m)⟩

/-- The tests of a log. -/
def ofLog (isAfterAll : String → Bool) (log : List Message) : TestLog :=
  log.foldl (next isAfterAll) {}

variable {isAfterAll : String → Bool} {t : TestLog}

private theorem ofLog_snoc (log : List Message) (m : Message) :
    ofLog isAfterAll (log ++ [m]) = (ofLog isAfterAll log).next isAfterAll m :=
  List.foldl_append

/-- The test that is open goes on through the window at the beginning of a log, and the tests of
that log follow. -/
private theorem runs_foldl (log : List Message) (t : TestLog) :
    (log.foldl (next isAfterAll) t).runs
      = t.closed
        ++ (t.current.map fun run =>
          { run with window := run.window ++ window isAfterAll log }).toList
        ++ testRuns isAfterAll log := by
  induction log generalizing t with
  | nil => simp [runs, window, testRuns]
  | cons m rest ih =>
    rw [List.foldl_cons, ih]
    cases hm : m.finalizes isAfterAll with
    | false =>
      -- the message belongs to the test that is open, if there is one
      have hruns : testRuns isAfterAll (m :: rest) = testRuns isAfterAll rest := by
        cases m <;> first | rfl | cases hm
      simp only [next, hm, Bool.false_eq_true, if_false, window_cons_of_not_finalizes hm, hruns,
        Option.map_map, Function.comp_def, TestRun.snoc, List.append_assoc, List.singleton_append]
    -- the message closes the test that is open
    | true =>
      simp only [next, hm, if_true, window_cons_of_finalizes hm, List.append_nil]
      rcases m.cases_of_finalizes hm with ⟨name, isFeature, rfl⟩ | ⟨name, start, rfl⟩
          | ⟨name, kind, start, rfl, -⟩ <;> simp [runs, testRuns]

private theorem runs_ofLog (log : List Message) :
    (ofLog isAfterAll log).runs = testRuns isAfterAll log :=
  runs_foldl log {}

end TestLog

section

variable {isAfterAll : String → Bool}

theorem testIsOpen_snoc (log : List Message) (m : Message) :
    testIsOpen isAfterAll (log ++ [m])
      = if m.finalizes isAfterAll then decide (m.kind = .testStart)
        else testIsOpen isAfterAll log := by
  cases hm : m.finalizes isAfterAll with
  | false => simp [testIsOpen, hm]
  | true =>
    rcases m.cases_of_finalizes hm with ⟨name, isFeature, rfl⟩ | ⟨name, start, rfl⟩
        | ⟨name, kind, start, rfl, hname⟩ <;>
      simp_all [testIsOpen, Message.kind]

/-- The last test is open when one is, and pending when its ending has not been read. -/
private theorem current_ofLog (isAfterAll : String → Bool) (log : List Message) :
    (TestLog.ofLog isAfterAll log).current.isSome = testIsOpen isAfterAll log
      ∧ ∀ run ∈ (TestLog.ofLog isAfterAll log).current,
        run.ending.isNone = isPending .test log := by
  induction log using List.reverseRecOn with
  | nil => exact ⟨rfl, nofun⟩
  | append_singleton log m ih =>
    rw [TestLog.ofLog_snoc, testIsOpen_snoc, isPending_snoc]
    generalize TestLog.ofLog isAfterAll log = t at ih
    obtain ⟨hopen, hpending⟩ := ih
    cases hm : m.finalizes isAfterAll with
    | true =>
      -- a test that was just started has not ended
      rcases m.cases_of_finalizes hm with ⟨name, isFeature, rfl⟩ | ⟨name, start, rfl⟩
          | ⟨name, kind, start, rfl, -⟩ <;>
        simp [TestLog.next, hm, Message.kind, Span.opens, TestRun.ending]
    | false =>
      simp only [TestLog.next, hm, Bool.false_eq_true, if_false, Option.isSome_map]
      refine ⟨hopen, fun run hrun => ?_⟩
      obtain ⟨run, hmem, rfl⟩ := Option.map_eq_some_iff.1 hrun
      rw [TestRun.ending_snoc]
      have hbefore := hpending run hmem
      cases m with
      | testStart name start => cases hm
      -- the first ending counts, and ends the pending test
      | testEnd e =>
        cases hr : run.ending <;>
          simp [Message.ending?, Message.kind, Span.opens, Span.closes]
      | suiteStart | suiteEnd | testInfo | hookStart | hookEnd =>
        simpa [Message.ending?, Message.kind, Span.opens, Span.closes] using hbefore
      | entry e =>
        cases e <;>
          simpa [Message.ending?, Message.kind, TestEntry.kind, Span.opens, Span.closes]
            using hbefore

/-- An ending is heard when a test is open and pending. -/
theorem endings_snoc (log : List Message) (m : Message) :
    endings isAfterAll (log ++ [m]) = endings isAfterAll log
      ++ if testIsOpen isAfterAll log && isPending .test log then m.ending?.toList else [] := by
  obtain ⟨hopen, hpending⟩ := current_ofLog isAfterAll log
  simp only [endings, ← TestLog.runs_ofLog]
  rw [TestLog.ofLog_snoc, ← hopen]
  generalize TestLog.ofLog isAfterAll log = t at hpending ⊢
  obtain ⟨closed, current⟩ := t
  cases hm : m.finalizes isAfterAll with
  | true =>
    -- the tests before are as they were, and one that is started has no ending
    rcases m.cases_of_finalizes hm with ⟨name, isFeature, rfl⟩ | ⟨name, start, rfl⟩
        | ⟨name, kind, start, rfl, -⟩ <;>
      simp [TestLog.next, TestLog.runs, hm, TestRun.ending, Message.ending?]
  | false =>
    cases current with
    | none => simp [TestLog.next, TestLog.runs, hm]
    | some run =>
      have hrun := hpending run rfl
      -- the open test has one ending or none
      have hone : ∀ run : TestRun, [run].filterMap (·.ending) = run.ending.toList := fun run => by
        cases he : run.ending <;> simp [he]
      simp only [TestLog.next, TestLog.runs, hm, Bool.false_eq_true, if_false, Option.map_some,
        Option.toList_some, List.filterMap_append, hone, TestRun.ending_snoc, Option.isSome_some,
        Bool.true_and, ← hrun]
      cases run.ending <;> simp

end

end Chronicle
