import Chronicle.Proofs.Report.Custody
import Chronicle.Proofs.Report.StepPositions

/-!
# The stack of open steps

However entries come to an open test, in whichever batches, and whatever is done to the report in
between: the steps that are open are the last step of the test, the last step inside that, and so on
up to some step, and they are the only ones that have no ending. `Backend.Worked.hasStepStack` says
so of the steps as the record shows them.
-/
namespace Chronicle

/-! ### Steps of a chain -/

/-- A position leads to a step, and from there on to a step inside. -/
private theorem stepAt?_cons_eq_some_iff {i : Nat} {p : Position} {steps : List StepResult}
    {s : StepResult} : stepAt? (i :: p) steps = some s
      ↔ ∃ outer, steps[i]? = some outer
        ∧ (p = [] ∧ outer = s ∨ stepAt? p outer.steps = some s) := by
  cases p with
  | nil => simp [stepAt?]
  | cons j p => simp [stepAt?, Option.bind_eq_some_iff]

/-- What stands at a position is one of the steps. -/
private theorem mem_everyStepIn_of_stepAt? {p : Position} {steps : List StepResult} {s : StepResult}
    (hp : stepAt? p steps = some s) : s ∈ everyStepIn steps := by
  have hmem : ∀ {steps : List StepResult} {outer : StepResult},
      outer ∈ steps → everyStep outer ⊆ everyStepIn steps := by
    intro steps outer houter
    -- the step in front and what is inside it stand among all steps
    obtain ⟨before, after, rfl⟩ := List.append_of_mem houter
    rw [everyStepIn_append, everyStepIn]
    exact List.subset_append_of_subset_right _ (List.subset_append_left _ _)
  -- by induction on the position, one step further in each time
  induction p generalizing steps with
  | nil => cases hp
  | cons i p ih =>
    obtain ⟨outer, hi, ⟨-, rfl⟩ | hinner⟩ := stepAt?_cons_eq_some_iff.1 hp
    · exact hmem (List.mem_of_getElem? hi) (everyStep_eq outer ▸ List.mem_cons_self)
    · exact hmem (List.mem_of_getElem? hi)
        (everyStep_eq outer ▸ List.mem_cons_of_mem _ (ih hinner))

/-- A chain has a step at each position on the way to its innermost step. -/
private theorem exists_stepAt?_chainedIn {p : Position} {steps chain : List StepResult}
    (hne : p ≠ []) (hp : p <+: positionIn steps chain) :
    ∃ s, stepAt? p (chainedIn steps chain) = some s := by
  induction chain generalizing steps p with
  | nil => exact absurd (List.prefix_nil.1 hp) hne
  | cons outer inner ih =>
    obtain ⟨i, p, rfl⟩ := List.exists_cons_of_ne_nil hne
    -- the way begins with the step that comes after the closed ones
    obtain ⟨rfl, hinner⟩ := List.cons_prefix_cons.1 hp
    simp only [chainedIn, stepAt?_cons_eq_some_iff, List.getElem?_concat_length]
    by_cases hnil : p = []
    · exact ⟨_, _, rfl, .inl ⟨hnil, rfl⟩⟩
    · obtain ⟨s, hs⟩ := ih hnil hinner
      exact ⟨s, _, rfl, .inr hs⟩

/-- Where everything outside of a chain has been closed, and nothing in it, the position of a step
tells whether it has been closed. -/
private theorem unfinished_or_finished_of_stepAt? {p : Position} {steps chain : List StepResult}
    {s : StepResult} (hsteps : ∀ x ∈ everyStepIn steps, x.Finished)
    (hchain : ∀ x ∈ chain, x.Unfinished ∧ ∀ inside ∈ everyStepIn x.steps, inside.Finished)
    (hp : stepAt? p (chainedIn steps chain) = some s) :
    p <+: positionIn steps chain ∧ s.Unfinished
      ∨ ¬p <+: positionIn steps chain ∧ s.Finished := by
  induction chain generalizing steps p with
  | nil =>
    -- with no step open every step has finished
    refine .inr ⟨?_, hsteps s (mem_everyStepIn_of_stepAt? hp)⟩
    rw [positionIn, List.prefix_nil]
    rintro rfl
    cases hp
  | cons outer inner ih =>
    obtain ⟨⟨houter, hinside⟩, hinner⟩ := List.forall_mem_cons.1 hchain
    cases p with
    | nil => cases hp
    | cons i p =>
      rw [chainedIn, stepAt?_cons_eq_some_iff] at hp
      obtain ⟨first, hi, hp⟩ := hp
      rw [positionIn, List.cons_prefix_cons]
      by_cases hlast : i = steps.length
      · -- the step of the chain, or a step inside it
        rw [hlast, List.getElem?_concat_length, Option.some.injEq] at hi
        subst hi
        rcases hp with ⟨rfl, rfl⟩ | hp
        · exact .inl ⟨⟨hlast, List.nil_prefix⟩,
            houter.stage, houter.status, houter.stop, houter.details⟩
        · simpa only [hlast, true_and] using ih hinside hinner hp
      · -- a step before it, or one inside such a step
        have hlt : i < steps.length := by
          have hlength := (List.getElem?_eq_some_iff.1 hi).1
          rw [List.length_append, List.length_singleton] at hlength
          omega
        rw [List.getElem?_append_left hlt] at hi
        have hmem := mem_everyStepIn_of_stepAt? (stepAt?_cons_eq_some_iff.2 ⟨first, hi, hp⟩)
        exact .inr ⟨fun hway => hlast hway.1, hsteps s hmem⟩

/-- Putting a chain of steps inside one another loses none. -/
private theorem length_everyStepIn_chainedIn (steps chain : List StepResult) :
    (everyStepIn (chainedIn steps chain)).length
      = (everyStepIn steps).length + (everyStepIn chain).length := by
  induction chain generalizing steps with
  | nil => rfl
  | cons outer inner ih =>
    simp only [chainedIn, everyStepIn_append, everyStepIn, everyStep_eq,
      StepResult.steps_withSteps, List.length_append, List.length_cons, List.length_nil, ih]
    omega

/-- As many steps backwards as forwards. -/
private theorem length_everyStepIn_reverse (steps : List StepResult) :
    (everyStepIn steps.reverse).length = (everyStepIn steps).length := by
  induction steps with
  | nil => rfl
  | cons s rest ih =>
    simp only [List.reverse_cons, everyStepIn_append, everyStepIn, List.length_append, ih,
      List.length_nil]
    omega

/-! ### Open tests -/

namespace OpenTest

variable (t : OpenTest)

/-- The test after an entry; an attachment gets the source of a given handle. -/
def apply (next : Handle) (t : OpenTest) : TestEntry → OpenTest
  | .stepStart name start => t.openStep name start
  | .stepStop status stop details => t.closeStep status stop details
  | .metadata labels parameters => t.describe labels parameters
  | .attachment file =>
    t.attach ⟨file.name, Backend.sourceName next file.contentType, file.contentType⟩

/-- What an entry makes of a test it makes of its forest. -/
private theorem forest_apply (next : Handle) (e : TestEntry) :
    (t.apply next e).forest = t.forest.apply next e := by
  cases e with
  | stepStart name start => exact t.forest_openStep name start
  | stepStop status stop details => exact t.forest_closeStep status stop details
  | metadata labels parameters =>
    simp only [forest_eq, apply, describe, StepForest.apply]
  | attachment file => exact t.forest_attach _

/-- What entries keep: the steps in the chain have not been closed, and all others have. -/
structure Tidy (t : OpenTest) : Prop where
  result : ∀ s ∈ everyStepIn t.result.steps, s.Finished
  openSteps : ∀ s ∈ t.openSteps, s.Unfinished ∧ ∀ inside ∈ everyStepIn s.steps, inside.Finished

/-- A step that is closed has finished. -/
private theorem finished_closed (s : StepResult) (status : Status) (stop : Int)
    (details : Option StatusDetails) : (s.closed status stop details).Finished :=
  ⟨rfl, rfl, rfl⟩

/-- A step that has been closed joins steps that have been closed. -/
private theorem finished_snoc {steps : List StepResult} {s : StepResult}
    (hsteps : ∀ x ∈ everyStepIn steps, x.Finished)
    (hinside : ∀ x ∈ everyStepIn s.steps, x.Finished) (status : Status) (stop : Int)
    (details : Option StatusDetails) :
    ∀ x ∈ everyStepIn (steps ++ [s.closed status stop details]), x.Finished := by
  rw [everyStepIn_append, everyStepIn, everyStep_eq, everyStepIn, List.append_nil,
    List.forall_mem_append, List.forall_mem_cons]
  exact ⟨hsteps, finished_closed s status stop details, hinside⟩

variable {t}

/-- Entries keep a test tidy: what is open is unfinished, everything else has finished. -/
theorem Tidy.apply (ht : t.Tidy) (next : Handle) (e : TestEntry) : (t.apply next e).Tidy := by
  obtain ⟨result, openSteps⟩ := t
  obtain ⟨hresult, hopen⟩ := ht
  cases e with
  | stepStart name start =>
    -- a step that starts is unfinished and has nothing inside
    refine ⟨hresult, List.forall_mem_cons.2 ⟨⟨⟨rfl, rfl, rfl, rfl⟩, ?_⟩, hopen⟩⟩
    exact List.forall_mem_nil _
  -- the step goes into the test, or into the step around it
  | stepStop status stop details =>
    match openSteps with
    | [] => exact ⟨hresult, hopen⟩
    | [s] =>
      obtain ⟨⟨-, hinside⟩, -⟩ := List.forall_mem_cons.1 hopen
      exact ⟨finished_snoc hresult hinside status stop details, List.forall_mem_nil _⟩
    | s :: outer :: rest =>
      obtain ⟨⟨-, hinside⟩, hrest⟩ := List.forall_mem_cons.1 hopen
      obtain ⟨⟨houter, hsteps⟩, hrest⟩ := List.forall_mem_cons.1 hrest
      refine ⟨hresult, List.forall_mem_cons.2 ⟨⟨?_, ?_⟩, hrest⟩⟩
      · exact ⟨houter.stage, houter.status, houter.stop, houter.details⟩
      · exact finished_snoc hsteps hinside status stop details
  | metadata labels parameters => exact ⟨hresult, hopen⟩
  -- an attachment leaves what a step says of itself
  | attachment file =>
    cases openSteps with
    | nil => exact ⟨hresult, hopen⟩
    | cons s rest =>
      obtain ⟨⟨hs, hinside⟩, hrest⟩ := List.forall_mem_cons.1 hopen
      exact ⟨hresult, List.forall_mem_cons.2
        ⟨⟨⟨hs.stage, hs.status, hs.stop, hs.details⟩, hinside⟩, hrest⟩⟩

/-- The position of a step tells whether it has been closed. -/
private theorem Tidy.unfinished_or_finished (ht : t.Tidy) {p : Position} {s : StepResult}
    (hp : stepAt? p (chainedIn t.result.steps t.openSteps.reverse) = some s) :
    p <+: positionIn t.result.steps t.openSteps.reverse ∧ s.Unfinished
      ∨ ¬p <+: positionIn t.result.steps t.openSteps.reverse ∧ s.Finished := by
  refine unfinished_or_finished_of_stepAt? ht.result (fun x hx => ht.openSteps x ?_) hp
  exact List.mem_reverse.1 hx

/-- A change of anything but the steps keeps a test tidy. -/
theorem Tidy.update (ht : t.Tidy) {f : TestResult → TestResult}
    (hf : ∀ r, (f r).steps = r.steps) : (t.update f).Tidy where
  result := by
    rw [OpenTest.update, hf]
    exact ht.result
  openSteps := ht.openSteps

variable (t)

/-- How many steps there are. -/
private theorem length_everyStepIn_snapshot : (everyStepIn t.snapshot.steps).length
    = (everyStepIn t.result.steps).length + (everyStepIn t.openSteps).length := by
  rw [steps_snapshot, length_everyStepIn_chainedIn, length_everyStepIn_reverse]

/-- Only the start of a step adds a step. -/
private theorem length_everyStepIn_apply (next : Handle) (e : TestEntry) :
    (everyStepIn (t.apply next e).snapshot.steps).length
      = (everyStepIn t.snapshot.steps).length + [e].countP (·.kind = .stepStart) := by
  rw [length_everyStepIn_snapshot, length_everyStepIn_snapshot]
  obtain ⟨result, openSteps⟩ := t
  cases e with
  | stepStart name start =>
    simp [apply, openStep, everyStepIn, everyStep_eq, TestEntry.kind]
    omega
  -- a step that is closed is moved, not added
  | stepStop status stop details =>
    cases openSteps with
    | nil => rfl
    | cons s rest =>
      cases rest with
      | nil =>
        simp [apply, closeStep, adopt, StepResult.closed, everyStepIn, everyStep_eq,
          everyStepIn_append, TestEntry.kind]
      | cons outer rest =>
        simp [apply, closeStep, StepResult.adopt, StepResult.closed, everyStepIn, everyStep_eq,
          everyStepIn_append, TestEntry.kind]
        omega
  | metadata labels parameters => rfl
  -- an attachment is no step
  | attachment file =>
    cases openSteps with
    | nil => rfl
    | cons s rest =>
      simp [apply, attach, StepResult.attach, everyStepIn, everyStep_eq, TestEntry.kind]

/-- What the steps of a test are after some entries. -/
structure HasStepStack (entries : List TestEntry) : Prop where
  /-- They are what the entries make of no steps, with a stack of positions. -/
  built : StepForest.Built entries t.forest
  /-- The open steps, the outermost first, are the last step, the last step inside it, and so on,
  up to some step. -/
  isPrefix : t.forest.stack.reverse <+: lastChain t.snapshot.steps
  /-- A step whose position is on the stack goes on running. -/
  unfinished : ∀ p ∈ t.forest.stack, ∃ s, stepAt? p t.snapshot.steps = some s ∧ s.Unfinished
  /-- All other steps have ended. -/
  finished : ∀ p ∉ t.forest.stack, ∀ s, stepAt? p t.snapshot.steps = some s → s.Finished
  /-- There is one step for each start of a step. -/
  count : (everyStepIn t.snapshot.steps).length = entries.countP (·.kind = .stepStart)

/-- What carries over from one entry to the next. -/
structure Grown (entries : List TestEntry) : Prop where
  tidy : t.Tidy
  built : StepForest.Built entries t.forest
  count : (everyStepIn t.snapshot.steps).length = entries.countP (·.kind = .stepStart)

variable {t} {entries : List TestEntry}

/-- A test that has grown by entries grows by one more. -/
theorem Grown.apply (ht : t.Grown entries) (n : Nat) (e : TestEntry) :
    (t.apply (.drawn n) e).Grown (entries ++ [e]) where
  tidy := ht.tidy.apply _ e
  built := by
    rw [forest_apply]
    exact ht.built.snoc n e
  count := by rw [length_everyStepIn_apply, ht.count, List.countP_append]

/-- A change of the record that leaves its steps alone leaves all steps alone. -/
theorem Grown.update (ht : t.Grown entries) {f : TestResult → TestResult}
    (hf : ∀ r, (f r).steps = r.steps) : (t.update f).Grown entries := by
  have hforest : (t.update f).forest = t.forest := by
    rw [forest_eq, forest_eq, OpenTest.update, hf]
  have hsteps : (t.update f).snapshot.steps = t.snapshot.steps := congrArg (·.steps) hforest
  exact ⟨ht.tidy.update hf, hforest ▸ ht.built, hsteps ▸ ht.count⟩

/-- What a test has grown to has its stack. -/
private theorem Grown.stacked (ht : t.Grown entries) : t.HasStepStack entries where
  built := ht.built
  isPrefix := by
    rw [forest_eq, steps_snapshot, reverse_positionsIn]
    obtain ⟨rest, hrest⟩ := positionIn_isPrefix t.result.steps t.openSteps.reverse
    rw [lastChain, ← hrest, tail_inits_append]
    exact List.prefix_append _ _
  unfinished p hp := by
    rw [forest, mem_positionsIn_iff] at hp
    obtain ⟨s, hs⟩ := exists_stepAt?_chainedIn hp.1 hp.2
    -- a step on the way to the last has not finished
    obtain ⟨-, hunfinished⟩ | ⟨hne, -⟩ := ht.tidy.unfinished_or_finished hs
    · exact ⟨s, t.steps_snapshot ▸ hs, hunfinished⟩
    · exact absurd hp.2 hne
  finished p hp s hs := by
    rw [forest, mem_positionsIn_iff] at hp
    rw [steps_snapshot] at hs
    -- a step that has not finished is on that way
    obtain ⟨hway, -⟩ | ⟨-, hfinished⟩ := ht.tidy.unfinished_or_finished hs
    · refine absurd ⟨?_, hway⟩ hp
      rintro rfl
      cases hs
    · exact hfinished
  count := ht.count

end OpenTest

/-! ### Reports -/

namespace Call

variable {α : Type}

/-- The entries that a call applies to a test. -/
def entriesFor (h : Handle) : Call α → List TestEntry
  | .applyMessages h' entries => if h' = h then entries else []
  | _ => []

/-- Whether a call leaves a test open, and its steps to entries. -/
def Spares (h : Handle) : Call α → Prop
  | .updateTest h' f => h' = h → ∀ r, (f r).steps = r.steps
  | .writeTest h' => h' ≠ h
  | _ => True

/-- A call with another target has no entries for a test. -/
private theorem entriesFor_eq_nil {c : Call α} {h : Handle} (hc : c.target? ≠ some (.test, h)) :
    c.entriesFor h = [] := by
  cases c with
  | applyMessages h' entries =>
    have hne : h' ≠ h := by
      rintro rfl
      exact hc rfl
    exact if_neg hne
  | _ => rfl

end Call

namespace Backend

variable {b b' : Backend} {h : Handle} {entries : List TestEntry} {α : Type} {c : Call α}

/-- What a test that has been started in a report in memory, and the entries that it has got, can
lead to by any calls that do not write it and do not change its steps in another way. Calls may
fail. -/
inductive Worked (h : Handle) : List TestEntry → Backend → Prop
  | started {b b' : Backend} {name : String} {start : Int} {path : List Handle}
      (hm : b.destination = .memory) (hruns : Runs (startTest name start path) b h b') :
      Worked h [] b'
  | call {α : Type} {c : Call α} {b b' : Backend} {entries : List TestEntry}
      (hw : Worked h entries b) (hc : c.Spares h) (hleaves : Leaves (c.run reporter) b b') :
      Worked h (entries ++ c.entriesFor h) b'

/-- What carries over from one call to the next. -/
structure Holds (h : Handle) (entries : List TestEntry) (b : Backend) : Prop where
  memory : b.destination = .memory
  isBefore : h.IsBefore b.drawn
  test : ∃ t, b.tests.get? h = some t ∧ t.Grown entries

/-- An entry is applied to the test with its handle. -/
private theorem get?_withEntry {t : OpenTest} (ht : b.tests.get? h = some t) (e : TestEntry) :
    (b.withEntry h e).tests.get? h = some (t.apply (.drawn b.drawn) e) := by
  have htests : (b.withEntry h e).tests = b.tests.change h (·.apply (.drawn b.drawn) e) := by
    cases e <;> rfl
  rw [htests, Table.get?_change_self ht]

/-- An entry can only draw more handles. -/
private theorem drawn_le_withEntry (h : Handle) (b : Backend) (e : TestEntry) :
    b.drawn ≤ (b.withEntry h e).drawn := by
  cases e with
  | attachment file => exact Nat.le_succ _
  | _ => exact Nat.le_refl _

/-- One more entry for the test is one more that it holds. -/
theorem Holds.withEntry (hb : Holds h entries b) (e : TestEntry) :
    Holds h (entries ++ [e]) (b.withEntry h e) where
  memory := (withEntry_destination h b e).trans hb.memory
  isBefore := hb.isBefore.mono (drawn_le_withEntry h b e)
  test := by
    obtain ⟨t, ht, hgrown⟩ := hb.test
    exact ⟨_, get?_withEntry ht e, hgrown.apply _ e⟩

/-- So are several. -/
private theorem Holds.foldl_withEntry (hb : Holds h entries b) (more : List TestEntry) :
    Holds h (entries ++ more) (more.foldl (Backend.withEntry h) b) := by
  induction more generalizing b entries with
  | nil => rwa [List.append_nil]
  | cons e rest ih =>
    rw [List.append_cons]
    exact ih (hb.withEntry e)

/-- What has been noted has no part in what a test holds. -/
private theorem Holds.of_calls (hb : Holds h entries b) (calls : List (Operation × Handle)) :
    Holds h entries { b with calls := calls } :=
  ⟨hb.memory, hb.isBefore, hb.test⟩

/-- A call in memory stays there, and no handle is drawn again. -/
theorem Deed.destination (hd : Deed b c b') : b'.destination = b.destination := by
  cases hd <;> rfl

/-- Calls can only draw more handles. -/
theorem Deed.drawn_le (hd : Deed b c b') : b.drawn ≤ b'.drawn := by
  cases hd with
  | startScope | startTest | startFixture => exact Nat.le_succ _
  | changeTest hc hop ht hf hn => exact hn
  | _ => exact Nat.le_refl _

/-- A call that succeeds leaves one state only. -/
private theorem Leaves.eq_of_runs {act : Reporting α} {a : α} {b₁ : Backend}
    (hleaves : Leaves act b b') (hruns : Runs act b a b₁) : b' = b₁ := by
  obtain ⟨a', hok⟩ | ⟨e, hfail⟩ := hleaves
  · exact (hruns.unique hok).2.symm
  · exact nomatch hruns.symm.trans hfail

/-- A call about something else leaves the test alone. -/
theorem Holds.of_other (hb : Holds h entries b) (hc : c.target? ≠ some (.test, h))
    (hleaves : Leaves (c.run reporter) b b') : Holds h entries b' := by
  rcases refused_or_deed hb.memory c with ⟨kind, h', -, -, herror⟩ | ⟨a, b₁, hruns, hdeed⟩
  · obtain ⟨a, hok⟩ | ⟨e, hfail⟩ := hleaves
    · exact nomatch herror.symm.trans hok
    · cases herror.symm.trans hfail
      exact hb
  · obtain rfl := hleaves.eq_of_runs hruns
    have hsame := hdeed.frame.tests h hb.isBefore.ne_drawn hc
    exact ⟨hdeed.destination.trans hb.memory, hb.isBefore.mono hdeed.drawn_le, hsame ▸ hb.test⟩

/-- A change of anything but the steps has no part in it either. -/
theorem Holds.update (hb : Holds h entries b) {f : TestResult → TestResult}
    (hf : ∀ r, (f r).steps = r.steps) :
    Holds h entries { b with tests := b.tests.change h (·.update f) } := by
  obtain ⟨t, ht, hgrown⟩ := hb.test
  exact ⟨hb.memory, hb.isBefore, _, Table.get?_change_self ht (·.update f), hgrown.update hf⟩

/-- Whatever call is made that spares the test, the test holds its entries. -/
theorem Holds.call (hb : Holds h entries b) (hc : c.Spares h)
    (hleaves : Leaves (c.run reporter) b b') : Holds h (entries ++ c.entriesFor h) b' := by
  -- a call on the test itself is one of four, any other leaves the test alone
  by_cases htarget : c.target? = some (.test, h)
  · obtain ⟨t, ht, -⟩ := hb.test
    cases c with
    | updateTest h' f =>
      cases htarget
      obtain rfl := hleaves.eq_of_runs (runs_updateTest ht f)
      show Holds h (entries ++ []) _
      rw [List.append_nil]
      exact (hb.update (hc rfl)).of_calls _
    | stopTest h' stop duration =>
      cases htarget
      obtain rfl := hleaves.eq_of_runs (runs_stopTest ht stop duration)
      show Holds h (entries ++ []) _
      rw [List.append_nil]
      exact (hb.update fun r => show (r.stopped stop duration).steps = _ from rfl).of_calls _
    -- the call that writes the test is not among them
    | writeTest h' =>
      cases htarget
      exact absurd rfl hc
    -- the entries of the call come after those so far
    | applyMessages h' more =>
      cases htarget
      obtain rfl := hleaves.eq_of_runs (runs_applyMessages hb.memory ht more)
      have hmore : (Call.applyMessages h more).entriesFor h = more := if_pos rfl
      rw [hmore]
      exact (hb.foldl_withEntry more).of_calls _
    | _ => cases htarget
  · rw [Call.entriesFor_eq_nil htarget, List.append_nil]
    exact hb.of_other htarget hleaves

/-- What has been made of a test by calls is held by it, by induction on the calls. -/
theorem Worked.holds (hw : Worked h entries b) : Holds h entries b := by
  induction hw with
  | @started b b' name start path hm hruns =>
    obtain ⟨rfl, rfl⟩ := (runs_startTest b name start path).unique hruns
    refine ⟨hm, ⟨b.drawn, Nat.lt_succ_self _, rfl⟩, _, Table.get?_cons_self _ _ _, ?_⟩
    exact ⟨⟨List.forall_mem_nil _, List.forall_mem_nil _⟩, .empty, rfl⟩
  | call _ hc hleaves ih => exact ih.call hc hleaves

/-- Entries that have been applied count among those for the test. -/
private theorem Worked.applied (hw : Worked h entries b) {more : List TestEntry}
    (hruns : Runs (applyMessages h more) b () b') : Worked h (entries ++ more) b' := by
  have happlied := hw.call (c := .applyMessages h more) trivial (.inl ⟨(), hruns⟩)
  rwa [Call.entriesFor, if_pos rfl] at happlied

/-- A call with another target adds nothing. -/
theorem Worked.other (hw : Worked h entries b) (hc : c.target? ≠ some (.test, h))
    (hspares : c.Spares h) (hleaves : Leaves (c.run reporter) b b') : Worked h entries b' := by
  have hother := hw.call hspares hleaves
  rwa [Call.entriesFor_eq_nil hc, List.append_nil] at hother

/-! ### Batches -/

/-- Entries are applied whatever has been noted before. -/
private theorem foldl_withEntry_of_calls (h : Handle) (entries : List TestEntry) (b : Backend)
    (calls : List (Operation × Handle)) :
    entries.foldl (Backend.withEntry h) { b with calls := calls }
      = { entries.foldl (Backend.withEntry h) b with calls := calls } := by
  induction entries generalizing b with
  | nil => rfl
  | cons e rest ih =>
    have hfirst : ({ b with calls := calls } : Backend).withEntry h e
        = { b.withEntry h e with calls := calls } := by
      cases e <;> rfl
    rw [List.foldl_cons, hfirst, ih, List.foldl_cons]

/-- Applying entries notes nothing by itself. -/
private theorem calls_foldl_withEntry (h : Handle) (entries : List TestEntry) (b : Backend) :
    (entries.foldl (Backend.withEntry h) b).calls = b.calls := by
  induction entries generalizing b with
  | nil => rfl
  | cons e rest ih =>
    rw [List.foldl_cons, ih]
    cases e <;> rfl

/-- Whether entries come in two batches or in one makes no difference but in the list of calls. -/
private theorem Holds.runs_applyMessages_append (hb : Holds h entries b) (xs ys : List TestEntry) :
    ∃ b', Runs (applyMessages h (xs ++ ys)) b () b'
      ∧ Runs (do applyMessages h xs; applyMessages h ys) b ()
        { b' with calls := b'.calls ++ [(.applyMessages, h)] } := by
  obtain ⟨t, ht, -⟩ := hb.test
  have hfirst := (hb.foldl_withEntry xs).of_calls
    ((xs.foldl (Backend.withEntry h) b).calls ++ [(.applyMessages, h)])
  obtain ⟨t', ht', -⟩ := hfirst.test
  refine ⟨_, runs_applyMessages hb.memory ht (xs ++ ys), ?_⟩
  refine Runs.bind (runs_applyMessages hb.memory ht xs)
    ((runs_applyMessages hfirst.memory ht' ys).endsIn ?_)
  simp only [foldl_withEntry_of_calls, calls_foldl_withEntry, List.foldl_append]

/-- However entries have come to an open test: its record holds the steps that they say, and the
open steps are the last ones. More entries can come in any batches. -/
theorem Worked.hasStepStack (hw : Worked h entries b) :
    ∃ t, Runs (openTest h) b t b ∧ t.HasStepStack entries
      ∧ ∀ xs ys, ∃ b', Runs (applyMessages h (xs ++ ys)) b () b'
        ∧ Runs (do applyMessages h xs; applyMessages h ys) b ()
          { b' with calls := b'.calls ++ [(.applyMessages, h)] } := by
  obtain ⟨t, ht, hgrown⟩ := hw.holds.test
  exact ⟨t, runs_openTest ht, hgrown.stacked, hw.holds.runs_applyMessages_append⟩

/-- Two steps are open, the second of them after another one that has been closed; a scope that is
started and a call that is refused come in between. -/
theorem Worked.hasStepStack_of_two_open_steps : ∃ b t,
    Worked (.drawn 0) [.stepStart "a" 1, .stepStart "b" 2, .stepStop .passed 3 none,
      .stepStart "c" 4] b
      ∧ Runs (openTest (.drawn 0)) b t b
      ∧ t.forest.stack = [[0, 1], [0]]
      ∧ t.HasStepStack [.stepStart "a" 1, .stepStart "b" 2, .stepStop .passed 3 none,
        .stepStart "c" 4] := by
  have hstarted : Worked (.drawn 0) [] _ := .started (b := inMemory {}) rfl
    (runs_startTest _ "t" 0 [])
  obtain ⟨t₀, ht₀, -⟩ := hstarted.holds.test
  have hopened := hstarted.applied (runs_applyMessages rfl ht₀
    [.stepStart "a" 1, .stepStart "b" 2])
  -- a call that is refused and one on another node come in between
  have hrefused := hopened.other (c := .writeScope (.drawn 0)) nofun trivial
    (.inr ⟨_, error_of_bind (openScope_eq_error rfl) _⟩)
  have hscope := hrefused.other (c := .startScope) nofun trivial (.inl ⟨_, runs_startScope _⟩)
  obtain ⟨t₁, ht₁, -⟩ := hscope.holds.test
  -- then one step is closed and another one opened
  have hclosed := hscope.applied (runs_applyMessages rfl ht₁
    [.stepStop .passed 3 none, .stepStart "c" 4])
  obtain ⟨t, ht, hstack, -⟩ := hclosed.hasStepStack
  refine ⟨_, t, hclosed, ht, ?_, hstack⟩
  -- the entries determine the stack
  obtain ⟨f₃, n₃, h₃, hforest⟩ := hstack.built.exists_apply (.stepStart "c" 4)
    [.stepStart "a" 1, .stepStart "b" 2, .stepStop .passed 3 none]
  obtain ⟨f₂, n₂, h₂, rfl⟩ := h₃.exists_apply (.stepStop .passed 3 none)
    [.stepStart "a" 1, .stepStart "b" 2]
  obtain ⟨f₁, n₁, h₁, rfl⟩ := h₂.exists_apply (.stepStart "b" 2) [.stepStart "a" 1]
  obtain ⟨f₀, n₀, h₀, rfl⟩ := h₁.exists_apply (.stepStart "a" 1) []
  obtain rfl := h₀.eq_empty
  rw [hforest]
  rfl

end Backend

end Chronicle
