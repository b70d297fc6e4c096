import Chronicle.Proofs.Replay.Tally
import Chronicle.Proofs.Session.Draining
import Chronicle.Proofs.Session.Pending
import Mathlib.Data.List.Nodup

/-!
# Scopes that list a test

Each test of a log is started inside some suites. In the report it is listed by one scope for each
of these, and by its own scope: `Backend.places_replayedAll`. One replay is taken from the marks of
its log, and since handles are not used again the scopes of other replays do not matter.
-/
namespace Chronicle

/-! ### Tests and the suites around them -/

/-- A test of a log, and the names of the suites that are open at its start. -/
structure PlacedTest where
  name : String
  start : Int
  suites : List String
  deriving DecidableEq, Repr, Inhabited

/-- The tests of a log, as they come after what stands before it. -/
def placedTests (before : List Message) : List Message → List PlacedTest
  | [] => []
  | m :: rest =>
    (m.testStart?.map fun t => ⟨t.1, t.2, openSuiteNames before⟩).toList
      ++ placedTests (before ++ [m]) rest

private theorem placedTests_append (before log log' : List Message) :
    placedTests before (log ++ log')
      = placedTests before log ++ placedTests (before ++ log) log' := by
  induction log generalizing before with
  | nil => rw [List.append_nil]; rfl
  | cons m rest ih => simp [placedTests, ih]

private theorem map_placedTests (before log : List Message) :
    (placedTests before log).map (fun p => (p.name, p.start)) = log.filterMap (·.testStart?) := by
  induction log generalizing before with
  | nil => rfl
  | cons m rest ih => cases hm : m.testStart? <;> simp [placedTests, hm, ih]

/-- The test in the second suite is inside of both, the next one only inside of the first. -/
example : (placedTests [] [.suiteStart "a" true, .suiteStart "b" false, .testStart "s" 1, .suiteEnd,
    .testStart "t" 2]).map (·.suites) = [["a", "b"], ["a"]] := by decide

/-! ### One log -/

/-- The scopes around a test have been opened one after another. -/
private theorem sublist_of_mem_nestings {suites : List Handle} {marks : List Mark}
    {n : Handle × List Handle} (hn : n ∈ nestings suites marks) :
    n.2.Sublist ((scopesOf marks).reverse ++ suites) := by
  induction marks generalizing suites with
  | nil => cases hn
  | cons m rest ih =>
    cases m with
    -- the suites that are open are among those started so far
    | suite s =>
      have hscopes : scopesOf (.suite s :: rest) = s :: scopesOf rest := rfl
      rw [hscopes, List.reverse_cons, List.append_assoc]
      exact ih hn
    | suiteEnd => exact (ih hn).trans (List.Sublist.append_left (List.tail_sublist suites) _)
    | test own t =>
      have hscopes : scopesOf (.test own t :: rest) = own :: scopesOf rest := rfl
      rw [hscopes, List.reverse_cons, List.append_assoc]
      rcases List.mem_cons.1 hn with rfl | hn
      -- the test itself is nested in the open suites
      · exact List.sublist_append_right _ _
      · exact (ih hn).trans (List.Sublist.append_left (List.sublist_cons_self own suites) _)

/-- As many scopes list a test as it is nested in. -/
private theorem countP_childrenOf {marks : List Mark} (hscopes : (scopesOf marks).Nodup)
    (htests : (testsOf marks).Nodup) {n : Handle × List Handle} (hn : n ∈ nestings [] marks) :
    (scopesOf marks).countP (n.1 ∈ childrenOf · marks) = n.2.length := by
  -- a test is a child of just the scopes it is nested in
  have hmem : ∀ h, n.1 ∈ childrenOf h marks ↔ h ∈ n.2 := by
    intro h
    simp only [childrenOf, List.mem_map, List.mem_filter, decide_eq_true_eq]
    constructor
    · -- no other test has this handle
      rintro ⟨n', ⟨hn', hh⟩, heq⟩
      obtain rfl := List.inj_on_of_nodup_map (map_fst_nestings [] marks ▸ htests) hn' hn heq
      exact hh
    · exact fun hh => ⟨n, ⟨hn, hh⟩, rfl⟩
  have hsublist := sublist_of_mem_nestings hn
  rw [List.append_nil] at hsublist
  have hnodup := (List.nodup_reverse.2 hscopes).sublist hsublist
  -- these are scopes that were started, each of them once
  have hperm : ((scopesOf marks).filter (· ∈ n.2)).Perm n.2 := by
    refine (List.perm_ext_iff_of_nodup (hscopes.filter _) hnodup).2 fun h => ?_
    simp only [List.mem_filter, decide_eq_true_eq, and_iff_right_iff_imp]
    exact fun hh => List.mem_reverse.1 (hsublist.subset hh)
  simp only [hmem]
  rw [List.countP_eq_length_filter, hperm.length_eq]

/-- A test is nested in its own scope and those of the suites that are open at its start. -/
private theorem forall₂_nestings {log : List Message} {marks : List Mark}
    (hkinds : marks.map (·.kind) = (log.map (·.kind)).filter (·.isMarked)) :
    List.Forall₂ (fun p n => n.2.length = p.suites.length + 1) (placedTests [] log)
      (nestings [] marks) := by
  induction log using List.reverseRecOn generalizing marks with
  | nil =>
    obtain rfl := List.map_eq_nil_iff.1 hkinds
    exact .nil
  | append_singleton log m ih =>
    rw [List.map_append, List.filter_append] at hkinds
    obtain ⟨marks, last, rfl, hmarks, hlast⟩ := List.map_eq_append_iff.1 hkinds
    rw [placedTests_append, nestings_append]
    refine List.rel_append (ih hmarks) ?_
    -- as many suites are open in the marks as in the log
    have hlength : (marks.foldl Mark.next []).length = (openSuiteNames log).length :=
      length_openSuites hmarks
    cases hm : m.kind.isMarked with
    | false =>
      obtain rfl : last = [] := by simpa [hm] using hlast
      cases m with
      | suiteStart | suiteEnd | testStart => cases hm
      | testInfo | testEnd | hookStart | hookEnd | entry => exact .nil
    | true =>
      obtain ⟨mark, rfl, hmark⟩ : ∃ mark, last = [mark] ∧ mark.kind = m.kind := by
        simpa [hm, List.map_eq_singleton_iff, and_comm] using hlast
      cases m with
      | suiteStart | suiteEnd =>
        cases mark <;> cases hmark
        exact .nil
      -- the test is nested in the open suites and in its own scope
      | testStart name start =>
        cases mark <;> cases hmark
        exact .cons (congrArg (· + 1) hlength) .nil
      | testInfo | testEnd | hookStart | hookEnd => cases hm
      | entry e => cases e <;> cases hm

/-! ### Reports -/

/-- Whether a test of a report is this one, listed by its own scope and by one for each suite. -/
structure PlacedTest.IsListed (scopes : List ScopeResult) (p : PlacedTest) (t : TestResult) :
    Prop where
  name : t.name = p.name
  start : t.start = p.start
  scopes : scopes.countP (t.handle ∈ ·.children) = p.suites.length + 1

/-- Whether the tests of a report are these. Handles have been drawn before they are listed. -/
structure Report.Places (placed : List PlacedTest) (r : Report) : Prop where
  tests : List.Forall₂ (PlacedTest.IsListed r.scopes) placed r.tests
  drawn : ∀ t ∈ r.tests, t.handle.IsBefore r.drawn
  listed : ∀ s ∈ r.scopes, ∀ h ∈ s.children, h.IsBefore r.drawn

namespace Report

theorem Places.nil : Places [] {} :=
  ⟨.nil, List.forall_mem_nil _, List.forall_mem_nil _⟩

variable {placed placed' : List PlacedTest} {r r' : Report}

private theorem countP_eq_zero_of_not_listed {scopes : List ScopeResult} {test : Handle}
    (h : ∀ s ∈ scopes, test ∉ s.children) : scopes.countP (test ∈ ·.children) = 0 :=
  List.countP_eq_zero.2 fun s hs hmem => h s hs (of_decide_eq_true hmem)

/-- A report behind another one lists its own tests, and each report only these. -/
theorem Places.followedBy (h : r.Places placed) (h' : r'.Places placed') :
    (r.followedBy r').Places (placed ++ placed') := by
  have hscopes : (r.followedBy r').scopes = r.scopes ++ r'.scopes.map (·.shift r.drawn) := rfl
  have hle : r.drawn ≤ r'.drawn + r.drawn := Nat.le_add_left _ _
  refine ⟨List.rel_append ?_ ?_, ?_, ?_⟩
  · refine (List.forall₂_iff_zip.2 ⟨h.tests.length_eq, fun {p t} hpt => ?_⟩)
    obtain ⟨hname, hstart, hcount⟩ := List.forall₂_zip h.tests hpt
    refine ⟨hname, hstart, ?_⟩
    -- the scopes of the later report list no test of the earlier one
    have hnone : (r'.scopes.map (·.shift r.drawn)).countP (t.handle ∈ ·.children) = 0 := by
      refine countP_eq_zero_of_not_listed fun s hs hmem => ?_
      obtain ⟨s', hs', rfl⟩ := List.mem_map.1 hs
      obtain ⟨x, hx, heq⟩ := List.mem_map.1 hmem
      refine (h'.listed s' hs' x hx).not_isBefore_shift r.drawn ?_
      rw [heq]
      exact h.drawn t (List.of_mem_zip hpt).2
    rw [hscopes, List.countP_append, hcount, hnone]
  -- the tests of the later report, whose handles are shifted
  · show List.Forall₂ _ placed' (r'.tests.map (·.shift r.drawn))
    rw [List.forall₂_map_right_iff]
    refine (List.forall₂_iff_zip.2 ⟨h'.tests.length_eq, fun {p t} hpt => ?_⟩)
    obtain ⟨hname, hstart, hcount⟩ := List.forall₂_zip h'.tests hpt
    refine ⟨hname, hstart, ?_⟩
    have hhandle : (t.shift r.drawn).handle = t.handle.shift r.drawn := rfl
    have hnone : r.scopes.countP ((t.shift r.drawn).handle ∈ ·.children) = 0 :=
      countP_eq_zero_of_not_listed fun s hs hmem =>
        (h'.drawn t (List.of_mem_zip hpt).2).not_isBefore_shift r.drawn (h.listed s hs _ hmem)
    -- shifting neither adds nor loses a child
    have hshift : ∀ s : ScopeResult, (t.shift r.drawn).handle ∈ (s.shift r.drawn).children
        ↔ t.handle ∈ s.children := fun s =>
      List.mem_map_of_injective (Handle.shift_injective r.drawn)
    rw [hscopes, List.countP_append, hnone, List.countP_map, Nat.zero_add, ← hcount]
    simp only [Function.comp_def, hshift]
  -- all handles are below the sum
  · refine List.forall_mem_append.2 ⟨fun t ht => (h.drawn t ht).mono hle, fun t ht => ?_⟩
    obtain ⟨t', ht', rfl⟩ := List.mem_map.1 ht
    exact (h'.drawn t' ht').shift r.drawn
  · rw [hscopes]
    refine List.forall_mem_append.2
      ⟨fun s hs x hx => (h.listed s hs x hx).mono hle, fun s hs x hx => ?_⟩
    obtain ⟨s', hs', rfl⟩ := List.mem_map.1 hs
    obtain ⟨x', hx', rfl⟩ := List.mem_map.1 hx
    exact (h'.listed s' hs' x' hx').shift r.drawn

end Report

/-! ### Replays -/

private theorem forall₂_of_map_eq {α β γ : Type} {f : α → γ} {g : β → γ} {as : List α} {bs : List β}
    (h : as.map f = bs.map g) : List.Forall₂ (fun a b => f a = g b) as bs := by
  rwa [← List.forall₂_eq_eq_eq, List.forall₂_map_left_iff, List.forall₂_map_right_iff] at h

private theorem forall₂_trans {α β γ : Type} {R : α → β → Prop} {S : β → γ → Prop} {as : List α}
    {bs : List β} {cs : List γ} (h : List.Forall₂ R as bs) (h' : List.Forall₂ S bs cs) :
    List.Forall₂ (fun a c => ∃ b, R a b ∧ S b c) as cs := by
  induction h generalizing cs with
  | nil =>
    cases h'
    exact .nil
  | cons hab _ ih =>
    cases h' with
    | cons hbc hrest => exact .cons ⟨_, hab, hbc⟩ (ih hrest)

/-- The tests of a replay are listed as its log tells. -/
private theorem Standing.places_replay (disk : FileTree) (isAfterAll : String → Bool)
    (log : List Message) :
    ((Backend.inMemory disk).replayed isAfterAll log).finished.Places (placedTests [] log) := by
  obtain ⟨marks, hcharts, hkinds⟩ := exists_charts (.inMemory disk) isAfterAll log
  have hcore := core_replay isAfterAll log (initial (.inMemory disk))
  have hnames := map_writtenTests_replay (.inMemory disk) isAfterAll log
  generalize (initial (.inMemory disk)).steps isAfterAll log = st at hcharts hcore
  rw [Backend.replayed]
  generalize (initial (.inMemory disk)).replay isAfterAll log = final at hcore hnames
  -- nothing is open at the end, so all tests and scopes have been written
  have hdrain := alike_drain st
  have hscopes : st.drain.scopes = [] := scopes_closeScopes rfl
  have hcurrent : st.drain.current = none :=
    (frame_closeScopes _ _).1.trans (current_finalize st)
  have hdrawn : st.drawn ≤ final.drawn := hdrain.drawn.trans (congrArg (·.drawn) hcore).ge
  -- the tests were written in the order of their marks
  have htests : final.writtenTests.map (·.handle) = testsOf marks := by
    rw [← hcharts.tests, ← hdrain.tests, Standing.tests, hcurrent,
      show final.writtenTests = st.drain.writtenTests from congrArg (·.writtenTests) hcore]
    exact (List.append_nil _).symm
  have hfamilies : (final.writtenScopes.map fun s => (s.handle, s.children)).Perm
      ((scopesOf marks).map fun h => (h, childrenOf h marks)) := by
    refine .trans (.of_eq ?_) (hdrain.families.trans hcharts.families)
    rw [families, hscopes, show final.writtenScopes = st.drain.writtenScopes from
      congrArg (·.writtenScopes) hcore]
    rfl
  -- so scopes are counted by what plain nesting says
  have hcount : ∀ h, (final.report (.inMemory disk)).writtenScopeResults.countP (h ∈ ·.children)
      = (scopesOf marks).countP (h ∈ childrenOf · marks) := by
    intro h
    have hperm := hfamilies.countP_eq (h ∈ ·.2)
    rw [List.countP_map, List.countP_map] at hperm
    rw [Backend.writtenScopeResults, List.countP_map]
    exact hperm
  have hbefore : ∀ h ∈ testsOf marks, h.IsBefore final.drawn :=
    (hcharts.testsDrawn.mono hdrawn).isBefore
  have hmem : ∀ t ∈ final.writtenTests, t.handle ∈ testsOf marks := fun t ht =>
    htests ▸ List.mem_map_of_mem ht
  refine ⟨?_, fun t ht => hbefore _ (hmem t ht), fun s hs h hh => ?_⟩
  -- the nestings and the tests go along with each other
  · have hnested : List.Forall₂ (fun n t => n ∈ nestings [] marks ∧ n.1 = t.handle)
        (nestings [] marks) final.writtenTests :=
      (List.forall₂_and_left _ _).2 ⟨fun _ hn => hn,
        forall₂_of_map_eq ((map_fst_nestings [] marks).trans htests.symm)⟩
    have hplaced := forall₂_trans (forall₂_nestings hkinds) hnested
    have hnamed := forall₂_of_map_eq ((map_placedTests [] log).trans hnames.symm)
    refine List.forall₂_iff_zip.2 ⟨hplaced.length_eq, fun {p t} hpt => ?_⟩
    obtain ⟨n, hlength, hn, hhandle⟩ := List.forall₂_zip hplaced hpt
    obtain ⟨hname, hstart⟩ := Prod.mk.inj (List.forall₂_zip hnamed hpt)
    refine ⟨hname.symm, hstart.symm, ?_⟩
    rw [← hlength, ← countP_childrenOf hcharts.scopesDrawn.nodup hcharts.testsDrawn.nodup hn,
      hhandle]
    exact hcount t.handle
  · obtain ⟨x, hx, rfl⟩ := List.mem_map.1 hs
    obtain ⟨scope, -, heq⟩ := List.mem_map.1 (hfamilies.subset (List.mem_map_of_mem hx))
    obtain ⟨-, hchildren⟩ := Prod.mk.inj heq
    have hlisted : h ∈ childrenOf scope marks := hchildren ▸ hh
    rw [childrenOf] at hlisted
    exact hbefore h (map_fst_nestings [] marks ▸
      List.map_subset _ (List.filter_subset_self _) hlisted)

theorem Backend.places_replayedAll (isAfterAll : String → Bool) (sessions : List Session) :
    ((inMemory {}).replayedAll isAfterAll sessions).finished.Places
      (sessions.flatMap fun s => placedTests [] s.log) := by
  rw [finished_replayedAll (stocked_inMemory {}) isAfterAll sessions {}]
  induction sessions using List.reverseRecOn with
  | nil => exact .nil
  | append_singleton sessions s ih =>
    rw [List.map_append, List.foldl_append, List.flatMap_append, List.flatMap_singleton]
    exact ih.followedBy (Standing.places_replay {} isAfterAll s.log)

end Chronicle
