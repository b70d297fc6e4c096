import Chronicle.Proofs.Runs
import Chronicle.Report.Reporter
import Mathlib.Logic.Function.Basic

/-!
# What the operations of a report do

One lemma for each operation of a report in memory: on a handle that is open it succeeds, and the
state that it leaves is written out. What uses an operation cites its lemma and looks no further.
-/
namespace Chronicle

/-! ### Tables -/

namespace Table

variable {α β : Type}

/-- The entry in front is found. -/
@[simp] theorem get?_cons_self (h : Handle) (a : α) (t : Table α) :
    get? ((h, a) :: t) h = some a := by
  simp only [get?, List.lookup_cons_self]

/-- A handle without an entry has nothing to remove. -/
private theorem remove_of_not_mem {t : Table α} {h : Handle} (hh : h ∉ t.handles) :
    t.remove h = t := by
  rw [remove, List.filter_eq_self]
  intro e he
  have hne : e.1 ≠ h := fun heq => hh (heq ▸ List.mem_map_of_mem he)
  simpa using hne

/-- A handle without an entry has nothing to change. -/
theorem change_of_not_mem {t : Table α} {h : Handle} (hh : h ∉ t.handles) (f : α → α) :
    t.change h f = t := by
  have heq : ∀ e ∈ t, (if e.1 = h then (e.1, f e.2) else e) = e := by
    intro e he
    have hne : e.1 ≠ h := fun heq => hh (heq ▸ List.mem_map_of_mem he)
    rw [if_neg hne]
  rw [change, List.map_congr_left heq, List.map_id']

/-- An entry that has just been put in front can be taken out again. -/
theorem remove_cons_self {t : Table α} {h : Handle} (hh : h ∉ t.handles) (a : α) :
    remove ((h, a) :: t) h = t := by
  have hrest := remove_of_not_mem hh
  simpa only [remove, List.filter_cons, bne_self_eq_false, Bool.false_eq_true, if_false] using hrest

/-- Of a new handle only the entry in front is changed. -/
theorem change_cons_self {t : Table α} {h : Handle} (hh : h ∉ t.handles) (a : α) (f : α → α) :
    change ((h, a) :: t) h f = (h, f a) :: t := by
  have hrest := change_of_not_mem hh f
  simpa only [change, List.map_cons, if_true, List.cons.injEq, true_and] using hrest

/-- Changing the entries of some handles one after another changes each of these entries once. -/
theorem foldl_change {hs : List Handle} (hnodup : hs.Nodup) (t : Table α) (f : α → α) :
    hs.foldl (fun t h => t.change h f) t = t.map fun e => if e.1 ∈ hs then (e.1, f e.2) else e := by
  induction hs generalizing t with
  | nil => simp only [List.foldl_nil, List.not_mem_nil, if_false, List.map_id']
  | cons h hs ih =>
    obtain ⟨hh, hnodup⟩ := List.nodup_cons.1 hnodup
    rw [List.foldl_cons, ih hnodup, change, List.map_map]
    refine List.map_congr_left fun e _ => ?_
    by_cases heq : e.1 = h
    · -- changed now, so none of the later handles may reach it
      simp only [Function.comp_apply, heq, if_true, hh, if_false, List.mem_cons_self]
    · simp only [Function.comp_apply, heq, if_false, List.mem_cons, false_or]

/-- A change moves no handle. -/
@[simp] theorem handles_change (t : Table α) (h : Handle) (f : α → α) :
    (t.change h f).handles = t.handles := by
  simp only [handles, change, List.map_map]
  refine List.map_congr_left fun e _ => ?_
  by_cases heq : e.1 = h <;> simp [heq]

/-- Two changes under one handle are one change. -/
theorem change_change (t : Table α) (h : Handle) (f g : α → α) :
    (t.change h f).change h g = t.change h fun a => g (f a) := by
  simp only [change, List.map_map]
  refine List.map_congr_left fun e _ => ?_
  by_cases heq : e.1 = h <;> simp [heq]

/-- A handle that is not in the table has no entry. -/
theorem get?_eq_none {t : Table α} {h : Handle} (hh : h ∉ t.handles) : t.get? h = none := by
  rw [get?, List.lookup_eq_none_iff]
  intro e he
  have hne : h ≠ e.1 := fun heq => hh (heq ▸ List.mem_map_of_mem he)
  simpa using hne

/-- Under handles that stay different, the same entries are found. -/
theorem get?_map {g : Handle → Handle} (hg : Function.Injective g) (f : α → β) (t : Table α)
    (h : Handle) : get? (t.map fun e => (g e.1, f e.2)) (g h) = (t.get? h).map f := by
  induction t with
  | nil => rfl
  | cons e rest ih =>
    obtain ⟨x, a⟩ := e
    by_cases heq : h = x
    · simp only [List.map_cons, heq, get?_cons_self, Option.map_some]
    · have hne : g h ≠ g x := fun hsame => heq (hg hsame)
      simpa [get?, List.lookup_cons, beq_eq_false_iff_ne.2 heq, beq_eq_false_iff_ne.2 hne] using ih

/-- Of two tables in a row, the second is looked up where the first has nothing. -/
theorem get?_append (t t' : Table α) (h : Handle) :
    get? (t ++ t') h = (t.get? h).or (t'.get? h) :=
  List.lookup_append

end Table

namespace Backend

variable {b : Backend} {h : Handle}

/-! ### Parts of operations -/

/-- Nothing is saved for a report in memory. -/
theorem runs_save (hm : b.destination = .memory) (name : String) (content : Bytes) :
    Runs (save name content) b () b := by
  refine .bind (.get b) ?_
  simp only [hm]
  exact .pure () b

/-- An open scope is found. -/
theorem runs_openScope {s : Scope} (hs : b.scopes.get? h = some s) : Runs (openScope h) b s b := by
  refine .bind (.get b) ?_
  simp only [hs]
  exact .pure s b

/-- So is an open test. -/
theorem runs_openTest {t : OpenTest} (ht : b.tests.get? h = some t) : Runs (openTest h) b t b := by
  refine .bind (.get b) ?_
  simp only [ht]
  exact .pure t b

/-- A running fixture is there. -/
private theorem runs_requireRunning (hh : h ∈ b.running) : Runs (requireRunning h) b () b := by
  refine .bind (.get b) ?_
  simp only [List.contains_iff_mem.2 hh]
  exact .pure () b

/-! ### Scopes -/

/-- A scope starts empty, under the next handle. -/
theorem runs_startScope (b : Backend) :
    Runs startScope b (.drawn b.drawn)
      { b with
        drawn := b.drawn + 1
        scopes := b.scopes.insert (.drawn b.drawn) ⟨.drawn b.drawn, [], [], []⟩
        calls := b.calls ++ [(.startScope, .drawn b.drawn)] } := rfl

/-- An open scope is moved to the written ones. -/
theorem runs_writeScope {s : Scope} (hm : b.destination = .memory)
    (hs : b.scopes.get? h = some s) :
    Runs (writeScope h) b ()
      { b with
        scopes := b.scopes.remove h
        writtenScopes := b.writtenScopes ++ [s]
        calls := b.calls ++ [(.writeScope, h)] } := by
  refine .bind (runs_openScope hs) (.bind (.change _ _) (.bind (.change _ _) ?_))
  refine .bind (.get _) (.bind (runs_save ?_ _ _) (.change _ _))
  exact hm

/-! ### Tests -/

/-- A test starts without steps, as a child of each of the scopes that is open. -/
theorem runs_startTest (b : Backend) (name : String) (start : Int) (scopes : List Handle) :
    Runs (startTest name start scopes) b (.drawn b.drawn)
      { b with
        drawn := b.drawn + 1
        tests := b.tests.insert (.drawn b.drawn)
          ⟨{ handle := .drawn b.drawn, name := name, start := start }, []⟩
        scopes := scopes.foldl
          (fun open_ s => open_.change s (·.addChild (.drawn b.drawn))) b.scopes
        calls := b.calls ++ [(.startTest, .drawn b.drawn)] } := rfl

/-- An open test is updated in place. -/
theorem runs_updateTest {t : OpenTest} (ht : b.tests.get? h = some t)
    (f : TestResult → TestResult) :
    Runs (updateTest h f) b ()
      { b with
        tests := b.tests.change h (·.update f)
        calls := b.calls ++ [(.updateTest, h)] } :=
  .bind (runs_openTest ht) (.bind (.change _ _) (.change _ _))

/-- An open test is stopped in place, and stays open. -/
theorem runs_stopTest {t : OpenTest} (ht : b.tests.get? h = some t) (stop duration : Option Int) :
    Runs (stopTest h stop duration) b ()
      { b with
        tests := b.tests.change h (·.update (·.stopped stop duration))
        calls := b.calls ++ [(.stopTest, h)] } :=
  .bind (runs_openTest ht) (.bind (.change _ _) (.change _ _))

/-- An open test is moved to the written ones, as what it has become. -/
theorem runs_writeTest {t : OpenTest} (hm : b.destination = .memory)
    (ht : b.tests.get? h = some t) :
    Runs (writeTest h) b ()
      { b with
        tests := b.tests.remove h
        writtenTests := b.writtenTests ++ [t.snapshot]
        calls := b.calls ++ [(.writeTest, h)] } := by
  refine .bind (runs_openTest ht) (.bind (.change _ _) (.bind (.change _ _) ?_))
  refine .bind (runs_save ?_ _ _) (.change _ _)
  exact hm

/-! ### Fixtures -/

/-- Without a scope nothing starts. -/
theorem runs_startFixture_none (b : Backend) (kind : HookKind) (name : String) (start : Int) :
    Runs (startFixture none kind name start) b none b :=
  .bind (.get b) (.pure none b)

/-- A fixture starts running under the next handle, listed in its scope. -/
theorem runs_startFixture (hh : b.scopes.has h = true) (kind : HookKind) (name : String)
    (start : Int) :
    Runs (startFixture (some h) kind name start) b (some (.drawn b.drawn))
      { b with
        drawn := b.drawn + 1
        scopes := b.scopes.change h (·.addFixture kind (.drawn b.drawn))
        fixtures := b.fixtures.insert (.drawn b.drawn)
          { handle := .drawn b.drawn, name := name, kind := kind, start := start }
        running := .drawn b.drawn :: b.running
        calls := b.calls ++ [(.startFixture, .drawn b.drawn)] } := by
  refine .bind (.get b) ?_
  simp only [Option.filter, hh, if_true]
  rfl

/-- A running fixture is updated in place. -/
theorem runs_updateFixture (hh : h ∈ b.running) (f : FixtureResult → FixtureResult) :
    Runs (updateFixture h f) b ()
      { b with
        fixtures := b.fixtures.change h f
        calls := b.calls ++ [(.updateFixture, h)] } :=
  .bind (runs_requireRunning hh) (.bind (.change _ _) (.change _ _))

/-- A fixture that stops is kept, but no longer running. -/
theorem runs_stopFixture (hh : h ∈ b.running) (stop duration : Option Int) :
    Runs (stopFixture h stop duration) b ()
      { b with
        running := b.running.filter (· != h)
        fixtures := b.fixtures.change h (·.stopped stop duration)
        calls := b.calls ++ [(.stopFixture, h)] } :=
  .bind (runs_requireRunning hh) (.bind (.change _ _) (.bind (.change _ _) (.change _ _)))

/-! ### Entries -/

/-- The report after an entry for a test. Only an attachment draws a handle. -/
def withEntry (h : Handle) (b : Backend) : TestEntry → Backend
  | .stepStart name start => { b with tests := b.tests.change h (·.openStep name start) }
  | .stepStop status stop details =>
    { b with tests := b.tests.change h (·.closeStep status stop details) }
  | .metadata labels parameters =>
    { b with tests := b.tests.change h (·.describe labels parameters) }
  | .attachment file =>
    let source := sourceName (.drawn b.drawn) file.contentType
    { b with
      drawn := b.drawn + 1
      tests := b.tests.change h (·.attach ⟨file.name, source, file.contentType⟩)
      attachments := (source, file.content) :: b.attachments }

/-- An entry does not change where a report goes. -/
@[simp] theorem withEntry_destination (h : Handle) (b : Backend) (e : TestEntry) :
    (b.withEntry h e).destination = b.destination := by
  cases e <;> rfl

/-- In memory an entry is always applied, whatever the test. -/
theorem runs_applyEntry (hm : b.destination = .memory) (h : Handle) (e : TestEntry) :
    Runs (applyEntry h e) b () (b.withEntry h e) := by
  cases e with
  | attachment file =>
    have hdraw : Runs draw b (.drawn b.drawn) { b with drawn := b.drawn + 1 } := rfl
    refine .bind hdraw (.bind (.change _ _) (.bind (.change _ _) (runs_save ?_ _ _)))
    exact hm
  | _ => rfl

/-- Entries are applied to an open test one after another, and noted as one call. -/
theorem runs_applyMessages {t : OpenTest} (hm : b.destination = .memory)
    (ht : b.tests.get? h = some t) (entries : List TestEntry) :
    Runs (applyMessages h entries) b ()
      { entries.foldl (withEntry h) b with
        calls := (entries.foldl (withEntry h) b).calls ++ [(.applyMessages, h)] } := by
  have hall : Runs (entries.forM (applyEntry h)) b () (entries.foldl (withEntry h) b) := by
    clear ht
    induction entries generalizing b with
    | nil => exact .pure () b
    | cons e rest ih =>
      exact .bind (runs_applyEntry hm h e) (ih ((withEntry_destination h b e).trans hm))
  exact .bind (runs_openTest ht) (.bind hall (.change _ _))

end Backend

end Chronicle
