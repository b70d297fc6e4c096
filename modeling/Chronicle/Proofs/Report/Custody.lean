import Chronicle.Proofs.Replay.Script
import Chronicle.Proofs.Report.Hooks
import Mathlib.Data.List.Nodup

/-!
# Handles under arbitrary use

A report in memory may be called in any order and with any handles. What is open is what has been
started and neither written nor stopped: a call on any other handle is refused and changes nothing,
and a call on a handle that is open changes nothing but what has that handle. Nothing that has been
started is ever lost or doubled. `Backend.Reached.custody` says all this of every report that calls
can lead to.

`Deed` lists what a call can do, one case for each kind of change; everything else is read off it.
-/
namespace Chronicle

/-! ### Tables -/

namespace Table

variable {α : Type} {t : Table α} {h h' : Handle}

/-- The handles left are those other than the one taken out. -/
theorem handles_remove (t : Table α) (h : Handle) :
    (t.remove h).handles = t.handles.filter (· ≠ h) := by
  rw [handles, handles, remove, List.filter_map]
  congr 1
  apply List.filter_congr
  intro e _
  simp only [Function.comp_apply, bne, beq_eq_decide, decide_not]

/-- What has another handle is still there. -/
private theorem get?_remove_of_ne (hne : h' ≠ h) (t : Table α) :
    (t.remove h).get? h' = t.get? h' := by
  induction t with
  | nil => rfl
  | cons e rest ih =>
    obtain ⟨x, a⟩ := e
    -- the first entry is taken out with the handle, or kept and looked at
    by_cases heq : x = h
    · have hx : (h' == x) = false := by simpa [heq] using hne
      have hremoved : remove ((x, a) :: rest) h = remove rest h :=
        List.filter_cons_of_neg (by simp [heq])
      rw [hremoved, ih, get?, get?, List.lookup_cons, hx]
    · have hkept : remove ((x, a) :: rest) h = (x, a) :: remove rest h :=
        List.filter_cons_of_pos (by simpa using heq)
      rw [hkept]
      simp only [get?, List.lookup_cons] at ih ⊢
      rw [ih]

end Table

/-- Adding to the first of two parts comes to the same as adding at the end. -/
theorem perm_append_middle {α : Type} {l l' all : List α} (h : (l ++ l').Perm all)
    (more : List α) : (l ++ more ++ l').Perm (all ++ more) := by
  have hswap : (l ++ more ++ l').Perm (l ++ l' ++ more) := by
    rw [List.append_assoc, List.append_assoc]
    exact List.perm_append_comm.append_left l
  exact hswap.trans (h.append_right more)

/-- Scopes get a child for each time they are named. -/
private theorem get?_foldl_addChild (t : Table Scope) (path : List Handle) (test h : Handle) :
    (path.foldl (fun open_ s => open_.change s (·.addChild test)) t).get? h
      = (t.get? h).map fun s =>
        { s with children := s.children ++ List.replicate (path.count h) test } := by
  induction path generalizing t with
  | nil => simp
  | cons x rest ih =>
    rw [List.foldl_cons, ih, Table.get?_change, Option.map_map]
    congr 1
    funext s
    -- a scope gets the child each time it is on the path
    by_cases heq : h = x
    · subst heq
      simp [Scope.addChild, List.replicate_succ]
    · simp [heq, Ne.symm heq]

/-! ### Ledgers -/

/-- What is open and what has been closed, as the calls have it: all that has been opened has been
opened once, and only that has been closed, once. -/
structure Ledger (opens closes : Operation) (calls : List (Operation × Handle))
    (open_ shut : List Handle) : Prop where
  opened : open_ = (unclosed opens closes calls).reverse
  closed : shut = calledWith closes calls
  nodup : (calledWith opens calls).Nodup
  nodup_shut : shut.Nodup
  subset : shut ⊆ calledWith opens calls

/-- The handles called with an operation are those that the calls show. -/
theorem mem_calledWith_iff {op : Operation} {calls : List (Operation × Handle)} {h : Handle} :
    h ∈ calledWith op calls ↔ (op, h) ∈ calls := by
  simp [calledWith]

namespace Ledger

variable {opens closes : Operation} {calls : List (Operation × Handle)} {open_ shut : List Handle}
  {h : Handle}

/-- Nothing is open before the first call. -/
theorem nil (opens closes : Operation) : Ledger opens closes [] [] [] :=
  ⟨rfl, rfl, .nil, .nil, List.nil_subset _⟩

/-- What is open has been opened and not closed. -/
theorem mem_open_iff (hl : Ledger opens closes calls open_ shut) :
    h ∈ open_ ↔ (opens, h) ∈ calls ∧ (closes, h) ∉ calls := by
  rw [hl.opened, List.mem_reverse, unclosed, List.mem_filter, decide_eq_true_eq,
    mem_calledWith_iff, mem_calledWith_iff]

/-- What has been opened is open or closed, and never both. -/
theorem perm (hl : Ledger opens closes calls open_ shut) :
    (open_ ++ shut).Perm (calledWith opens calls) := by
  have hopen : open_.Nodup := by
    rw [hl.opened, List.nodup_reverse]
    exact hl.nodup.filter _
  -- what is still open has not been closed
  have hdisjoint : ∀ x ∈ open_, ∀ y ∈ shut, x ≠ y := by
    rintro x hx y hy rfl
    rw [hl.closed, mem_calledWith_iff] at hy
    exact (hl.mem_open_iff.1 hx).2 hy
  have hboth := List.nodup_append.2 ⟨hopen, hl.nodup_shut, hdisjoint⟩
  -- both sides have no repetitions, so it is enough to compare members
  rw [List.perm_ext_iff_of_nodup hboth hl.nodup]
  intro x
  rw [List.mem_append, hl.mem_open_iff, mem_calledWith_iff]
  constructor
  · rintro (⟨hx, -⟩ | hx)
    · exact hx
    · exact mem_calledWith_iff.1 (hl.subset hx)
  · intro hx
    by_cases hclosed : (closes, x) ∈ calls
    · right
      rwa [hl.closed, mem_calledWith_iff]
    · exact .inl ⟨hx, hclosed⟩

/-- A call that opens a new handle puts it on top. -/
theorem snoc_open (hl : Ledger opens closes calls open_ shut) (hne : opens ≠ closes)
    (hnew : ∀ call ∈ calls, call.2 ≠ h) :
    Ledger opens closes (calls ++ [(opens, h)]) (h :: open_) shut where
  opened := by
    rw [unclosed_snoc_opens hne hnew, List.reverse_append, hl.opened]
    rfl
  closed := by rw [calledWith_snoc, if_neg hne, List.append_nil, hl.closed]
  nodup := by
    rw [calledWith_snoc, if_pos rfl]
    refine List.nodup_append.2 ⟨hl.nodup, List.nodup_singleton h, ?_⟩
    -- a handle that is new has not been opened before
    rintro x hx y hy rfl
    obtain rfl := List.mem_singleton.1 hy
    exact hnew _ (mem_calledWith_iff.1 hx) rfl
  nodup_shut := hl.nodup_shut
  subset := by
    rw [calledWith_snoc]
    exact List.subset_append_of_subset_left _ hl.subset

/-- A call that closes an open handle moves it to those that are shut. -/
theorem snoc_close (hl : Ledger opens closes calls open_ shut) (hne : opens ≠ closes)
    (hopen : h ∈ open_) :
    Ledger opens closes (calls ++ [(closes, h)]) (open_.filter (· ≠ h)) (shut ++ [h]) where
  opened := by rw [unclosed_snoc_closes hne, hl.opened, List.filter_reverse]
  closed := by rw [calledWith_snoc, if_pos rfl, hl.closed]
  nodup := by
    rw [calledWith_snoc, if_neg hne.symm, List.append_nil]
    exact hl.nodup
  nodup_shut := by
    refine List.nodup_append.2 ⟨hl.nodup_shut, List.nodup_singleton h, ?_⟩
    -- a handle that is open has not been closed before
    rintro x hx y hy rfl
    obtain rfl := List.mem_singleton.1 hy
    rw [hl.closed, mem_calledWith_iff] at hx
    exact (hl.mem_open_iff.1 hopen).2 hx
  subset := by
    rw [calledWith_snoc, if_neg hne.symm, List.append_nil]
    refine List.append_subset.2 ⟨hl.subset, ?_⟩
    intro x hx
    obtain rfl := List.mem_singleton.1 hx
    exact mem_calledWith_iff.2 (hl.mem_open_iff.1 hopen).1

/-- Calls of other operations do not count. -/
theorem snoc_other {op : Operation} (hl : Ledger opens closes calls open_ shut)
    (hopens : op ≠ opens) (hcloses : op ≠ closes) (h : Handle) :
    Ledger opens closes (calls ++ [(op, h)]) open_ shut where
  opened := by rw [unclosed_snoc_of_ne hopens hcloses, hl.opened]
  closed := by rw [calledWith_snoc, if_neg hcloses, List.append_nil, hl.closed]
  nodup := by
    rw [calledWith_snoc, if_neg hopens, List.append_nil]
    exact hl.nodup
  nodup_shut := hl.nodup_shut
  subset := by
    rw [calledWith_snoc, if_neg hopens, List.append_nil]
    exact hl.subset

end Ledger

/-! ### What calls do -/

/-- The operation that opens nodes of a kind. -/
def NodeKind.opener : NodeKind → Operation
  | .scope => .startScope
  | .test => .startTest
  | .fixture => .startFixture

/-- The operation that closes nodes of a kind. -/
def NodeKind.closer : NodeKind → Operation
  | .scope => .writeScope
  | .test => .writeTest
  | .fixture => .stopFixture

namespace Call

variable {α : Type}

/-- What has to be open for a call: the node of a kind that the call is about. -/
def target? : Call α → Option (NodeKind × Handle)
  | .writeScope h => some (.scope, h)
  | .updateTest h _ | .stopTest h _ _ | .writeTest h | .applyMessages h _ => some (.test, h)
  | .updateFixture h _ | .stopFixture h _ _ => some (.fixture, h)
  | .startScope | .startTest .. | .startFixture .. => none

/-- Whether a call leaves the handle of a record alone when it changes the record. -/
def KeepsHandle : Call α → Prop
  | .updateTest _ f => ∀ r, (f r).handle = r.handle
  | .updateFixture _ f => ∀ r, (f r).handle = r.handle
  | _ => True

/-- An open scope after a call that may list something new in it. -/
def listing (c : Call α) (new h : Handle) (s : Scope) : Scope :=
  match c with
  | .startTest _ _ path => { s with children := s.children ++ List.replicate (path.count h) new }
  | .startFixture (some scope) kind _ _ => if h = scope then s.addFixture kind new else s
  | _ => s

/-- The tests that a call writes. -/
def testsWritten (c : Call α) (b : Backend) : List TestResult :=
  match c with
  | .writeTest h => ((b.tests.get? h).map OpenTest.snapshot).toList
  | _ => []

/-- The scopes that a call writes. -/
def scopesWritten (c : Call α) (b : Backend) : List Scope :=
  match c with
  | .writeScope h => (b.scopes.get? h).toList
  | _ => []

end Call

namespace Backend

variable {b b' : Backend} {α : Type} {c : Call α} {kind : NodeKind} {h : Handle}

/-- The handles that are open as a kind. -/
def openHandles (b : Backend) : NodeKind → List Handle
  | .scope => b.scopes.handles
  | .test => b.tests.handles
  | .fixture => b.running

/-- What has a handle has been started as this kind, and it has not been written or stopped. -/
def IsOpen (b : Backend) (kind : NodeKind) (h : Handle) : Prop :=
  (kind.opener, h) ∈ b.calls ∧ (kind.closer, h) ∉ b.calls

/-- What a call does to a report in memory, if it is not refused. -/
inductive Deed (b : Backend) : {α : Type} → Call α → Backend → Prop
  | startScope : Deed b .startScope
      { b with
        drawn := b.drawn + 1
        scopes := b.scopes.insert (.drawn b.drawn) ⟨.drawn b.drawn, [], [], []⟩
        calls := b.calls ++ [(.startScope, .drawn b.drawn)] }
  | writeScope {h : Handle} {s : Scope} (hs : b.scopes.get? h = some s) : Deed b (.writeScope h)
      { b with
        scopes := b.scopes.remove h
        writtenScopes := b.writtenScopes ++ [s]
        calls := b.calls ++ [(.writeScope, h)] }
  | startTest (name : String) (start : Int) (path : List Handle) :
      Deed b (.startTest name start path)
      { b with
        drawn := b.drawn + 1
        tests := b.tests.insert (.drawn b.drawn)
          ⟨{ handle := .drawn b.drawn, name := name, start := start }, []⟩
        scopes := path.foldl (fun open_ s => open_.change s (·.addChild (.drawn b.drawn))) b.scopes
        calls := b.calls ++ [(.startTest, .drawn b.drawn)] }
  | changeTest {c : Call Unit} {h : Handle} {t : OpenTest} (hc : c.target? = some (.test, h))
      (hop : c.operation = .updateTest ∨ c.operation = .stopTest ∨ c.operation = .applyMessages)
      (ht : b.tests.get? h = some t) {f : OpenTest → OpenTest}
      (hf : c.KeepsHandle → OpenTest.KeepsHandle f) {n : Nat}
      (hn : b.drawn ≤ n) (attachments : List (String × Bytes)) : Deed b c
      { b with
        drawn := n
        tests := b.tests.change h f
        attachments := attachments
        calls := b.calls ++ [(c.operation, h)] }
  | writeTest {h : Handle} {t : OpenTest} (ht : b.tests.get? h = some t) : Deed b (.writeTest h)
      { b with
        tests := b.tests.remove h
        writtenTests := b.writtenTests ++ [t.snapshot]
        calls := b.calls ++ [(.writeTest, h)] }
  /-- A fixture without an open scope is declined. -/
  | declined {scope : Option Handle} (hscope : ∀ h, scope = some h → h ∉ b.scopes.handles)
      (kind : HookKind) (name : String) (start : Int) :
      Deed b (.startFixture scope kind name start) b
  | startFixture {h : Handle} (hh : h ∈ b.scopes.handles) (kind : HookKind) (name : String)
      (start : Int) : Deed b (.startFixture (some h) kind name start)
      { b with
        drawn := b.drawn + 1
        scopes := b.scopes.change h (·.addFixture kind (.drawn b.drawn))
        fixtures := b.fixtures.insert (.drawn b.drawn)
          { handle := .drawn b.drawn, name := name, kind := kind, start := start }
        running := .drawn b.drawn :: b.running
        calls := b.calls ++ [(.startFixture, .drawn b.drawn)] }
  | updateFixture {h : Handle} (hh : h ∈ b.running) (f : FixtureResult → FixtureResult) :
      Deed b (.updateFixture h f)
      { b with fixtures := b.fixtures.change h f, calls := b.calls ++ [(.updateFixture, h)] }
  | stopFixture {h : Handle} (hh : h ∈ b.running) (stop duration : Option Int) :
      Deed b (.stopFixture h stop duration)
      { b with
        running := b.running.filter (· != h)
        fixtures := b.fixtures.change h (·.stopped stop duration)
        calls := b.calls ++ [(.stopFixture, h)] }

/-! What is not open is not found. -/

/-- A scope that is not open is refused. -/
theorem openScope_eq_error (hnone : b.scopes.get? h = none) :
    openScope h b = .error (.unknownHandle .scope h) b := by
  rw [openScope, (Runs.get b).bind_eq]
  simp only [hnone]
  rfl

/-- So is a test that is not open. -/
theorem openTest_eq_error (hnone : b.tests.get? h = none) :
    openTest h b = .error (.unknownHandle .test h) b := by
  rw [openTest, (Runs.get b).bind_eq]
  simp only [hnone]
  rfl

/-- So is a fixture that is not running. -/
theorem requireRunning_eq_error (hh : h ∉ b.running) :
    requireRunning h b = .error (.unknownHandle .fixture h) b := by
  have hcontains : b.running.contains h = false := by simpa using hh
  rw [requireRunning, (Runs.get b).bind_eq]
  simp only [hcontains]
  rfl

/-- Without a scope that is open a fixture is declined, and nothing else happens. -/
theorem runs_startFixture_of_closed {scope : Option Handle}
    (hscope : ∀ h, scope = some h → h ∉ b.scopes.handles) (kind : HookKind) (name : String)
    (start : Int) : Runs (startFixture scope kind name start) b none b := by
  have hnone : scope.filter b.scopes.has = none := by
    rw [Option.filter_eq_none_iff]
    intro h hh
    rw [Table.has, Table.get?_eq_none (hscope h hh)]
    exact Bool.false_ne_true
  refine .bind (.get b) ?_
  simp only [hnone]
  exact .pure none b

/-- An entry changes one test, and what is attached. -/
theorem exists_withEntry (h : Handle) (e : TestEntry) (b : Backend) :
    ∃ n f attachments, b.drawn ≤ n ∧ OpenTest.KeepsHandle f ∧ b.withEntry h e
      = { b with drawn := n, tests := b.tests.change h f, attachments := attachments } := by
  cases e with
  | stepStart name start =>
    exact ⟨b.drawn, _, b.attachments, Nat.le_refl _, OpenTest.keepsHandle_openStep name start, rfl⟩
  | stepStop status stop details =>
    exact ⟨b.drawn, _, b.attachments, Nat.le_refl _,
      OpenTest.keepsHandle_closeStep status stop details, rfl⟩
  | metadata labels parameters =>
    exact ⟨b.drawn, _, b.attachments, Nat.le_refl _,
      OpenTest.keepsHandle_describe labels parameters, rfl⟩
  -- an attachment takes a handle for its source
  | attachment file => exact ⟨b.drawn + 1, _, _, Nat.le_succ _, OpenTest.keepsHandle_attach _, rfl⟩

/-- Entries draw handles, change the one test, and add attachments, whatever else is in the
report. -/
private theorem exists_foldl_withEntry (h : Handle) (entries : List TestEntry) (b : Backend) :
    ∃ n f attachments, b.drawn ≤ n ∧ OpenTest.KeepsHandle f ∧ entries.foldl (withEntry h) b
      = { b with drawn := n, tests := b.tests.change h f, attachments := attachments } := by
  induction entries generalizing b with
  | nil =>
    have hid : b.tests.change h id = b.tests := by simp [Table.change]
    refine ⟨b.drawn, id, b.attachments, Nat.le_refl _, fun _ => rfl, ?_⟩
    rw [hid]
    rfl
  | cons e rest ih =>
    -- the changes of the first entry and of the rest are one change
    obtain ⟨n₁, g, attachments₁, hn₁, hg, hfirst⟩ := exists_withEntry h e b
    obtain ⟨n, f, attachments, hn, hf, hrest⟩ := ih (b.withEntry h e)
    rw [hfirst] at hn
    refine ⟨n, fun t => f (g t), attachments, Nat.le_trans hn₁ hn, fun t => (hf _).trans (hg t), ?_⟩
    rw [List.foldl_cons, hrest, hfirst]
    simp only [Table.change_change]

/-- A scope is found, or it is not open and looking for it fails. -/
private theorem found_or_unknown_scope (h : Handle) (b : Backend) :
    (∃ s, b.scopes.get? h = some s)
      ∨ h ∉ b.openHandles .scope ∧ openScope h b = .error (.unknownHandle .scope h) b := by
  cases hs : b.scopes.get? h with
  | some s => exact .inl ⟨s, rfl⟩
  | none =>
    refine .inr ⟨fun hmem => ?_, openScope_eq_error hs⟩
    obtain ⟨s, hs'⟩ := Table.exists_get? hmem
    cases hs.symm.trans hs'

/-- So it is with a test. -/
private theorem found_or_unknown_test (h : Handle) (b : Backend) :
    (∃ t, b.tests.get? h = some t)
      ∨ h ∉ b.openHandles .test ∧ openTest h b = .error (.unknownHandle .test h) b := by
  cases ht : b.tests.get? h with
  | some t => exact .inl ⟨t, rfl⟩
  | none =>
    refine .inr ⟨fun hmem => ?_, openTest_eq_error ht⟩
    obtain ⟨t, ht'⟩ := Table.exists_get? hmem
    cases ht.symm.trans ht'

/-- A call is refused since its node is not open, and nothing changes; or it does what it says. -/
theorem refused_or_deed (hm : b.destination = .memory) (c : Call α) :
    (∃ kind h, c.target? = some (kind, h) ∧ h ∉ b.openHandles kind
        ∧ c.run reporter b = .error (.unknownHandle kind h) b)
      ∨ ∃ a b', Runs (c.run reporter) b a b' ∧ Deed b c b' := by
  cases c with
  -- what starts a node is never refused
  | startScope => exact .inr ⟨_, _, runs_startScope b, .startScope⟩
  | startTest name start path =>
    exact .inr ⟨_, _, runs_startTest b name start path, .startTest name start path⟩
  -- any other call is refused just if its target is not open
  | writeScope h =>
    obtain ⟨s, hs⟩ | ⟨hclosed, hfail⟩ := found_or_unknown_scope h b
    · exact .inr ⟨_, _, runs_writeScope hm hs, .writeScope hs⟩
    · exact .inl ⟨.scope, h, rfl, hclosed, error_of_bind hfail _⟩
  | updateTest h f =>
    obtain ⟨t, ht⟩ | ⟨hclosed, hfail⟩ := found_or_unknown_test h b
    · have hf : (Call.updateTest h f).KeepsHandle → OpenTest.KeepsHandle (·.update f) :=
        OpenTest.keepsHandle_update
      exact .inr ⟨_, _, runs_updateTest ht f,
        .changeTest rfl (.inl rfl) ht hf (Nat.le_refl _) b.attachments⟩
    · exact .inl ⟨.test, h, rfl, hclosed, error_of_bind hfail _⟩
  | stopTest h stop duration =>
    obtain ⟨t, ht⟩ | ⟨hclosed, hfail⟩ := found_or_unknown_test h b
    · have hf : OpenTest.KeepsHandle (·.update (·.stopped stop duration)) :=
        OpenTest.keepsHandle_update fun _ => rfl
      exact .inr ⟨_, _, runs_stopTest ht stop duration,
        .changeTest rfl (.inr (.inl rfl)) ht (fun _ => hf) (Nat.le_refl _) b.attachments⟩
    · exact .inl ⟨.test, h, rfl, hclosed, error_of_bind hfail _⟩
  | applyMessages h entries =>
    obtain ⟨t, ht⟩ | ⟨hclosed, hfail⟩ := found_or_unknown_test h b
    · have hruns := runs_applyMessages hm ht entries
      obtain ⟨n, f, attachments, hn, hf, hall⟩ := exists_foldl_withEntry h entries b
      rw [hall] at hruns
      exact .inr ⟨_, _, hruns, .changeTest rfl (.inr (.inr rfl)) ht (fun _ => hf) hn attachments⟩
    · exact .inl ⟨.test, h, rfl, hclosed, error_of_bind hfail _⟩
  | writeTest h =>
    obtain ⟨t, ht⟩ | ⟨hclosed, hfail⟩ := found_or_unknown_test h b
    · exact .inr ⟨_, _, runs_writeTest hm ht, .writeTest ht⟩
    · exact .inl ⟨.test, h, rfl, hclosed, error_of_bind hfail _⟩
  | startFixture scope kind name start =>
    by_cases hopen : ∃ h, scope = some h ∧ h ∈ b.scopes.handles
    · obtain ⟨h, rfl, hh⟩ := hopen
      obtain ⟨s, hs⟩ := Table.exists_get? hh
      have hhas : b.scopes.has h = true := by simp [Table.has, hs]
      exact .inr ⟨_, _, runs_startFixture hhas kind name start, .startFixture hh kind name start⟩
    -- a fixture with no open scope is declined, which is no failure
    · have hclosed : ∀ h, scope = some h → h ∉ b.scopes.handles := by simpa using hopen
      exact .inr ⟨_, _, runs_startFixture_of_closed hclosed kind name start,
        .declined hclosed kind name start⟩
  | updateFixture h f =>
    by_cases hh : h ∈ b.running
    · exact .inr ⟨_, _, runs_updateFixture hh f, .updateFixture hh f⟩
    · exact .inl ⟨.fixture, h, rfl, hh, error_of_bind (requireRunning_eq_error hh) _⟩
  | stopFixture h stop duration =>
    by_cases hh : h ∈ b.running
    · exact .inr ⟨_, _, runs_stopFixture hh stop duration, .stopFixture hh stop duration⟩
    · exact .inl ⟨.fixture, h, rfl, hh, error_of_bind (requireRunning_eq_error hh) _⟩

/-! ### Reports under any use -/

/-- An action that starts in one state ends in another one, whether it succeeds or fails. -/
def Leaves {ε σ : Type} (act : EStateM ε σ α) (s s' : σ) : Prop :=
  (∃ a, act s = .ok a s') ∨ ∃ e, act s = .error e s'

/-- What calls in any order and with any handles can lead a new report in memory to. They may fail,
and they may change a record in any way that leaves its handle alone. -/
inductive Reached : Backend → Prop
  | new (disk : FileTree) : Reached (inMemory disk)
  | call {α : Type} {c : Call α} {b b' : Backend} (h : Reached b) (hc : c.KeepsHandle)
      (hleaves : Leaves (c.run reporter) b b') : Reached b'

/-- What all calls keep: what is open and what has been written is as the calls have it, and all
handles have been drawn. -/
structure Kept (b : Backend) : Prop where
  memory : b.destination = .memory
  isBefore : ∀ call ∈ b.calls, call.2.IsBefore b.drawn
  scopes : Ledger .startScope .writeScope b.calls b.scopes.handles (b.writtenScopes.map (·.handle))
  tests : Ledger .startTest .writeTest b.calls b.tests.handles (b.writtenTests.map (·.handle))
  fixtures : ∃ stopped, Ledger .startFixture .stopFixture b.calls b.running stopped
  keyedScopes : ∀ e ∈ b.scopes, e.2.handle = e.1
  keyedTests : ∀ e ∈ b.tests, e.2.result.handle = e.1

namespace Kept

/-- A new report has nothing to keep. -/
theorem new (disk : FileTree) : (inMemory disk).Kept where
  memory := rfl
  isBefore := List.forall_mem_nil _
  scopes := .nil _ _
  tests := .nil _ _
  fixtures := ⟨[], .nil _ _⟩
  keyedScopes := List.forall_mem_nil _
  keyedTests := List.forall_mem_nil _

/-- What a report holds as open is what its calls have left open. -/
private theorem mem_openHandles_iff (hk : b.Kept) : h ∈ b.openHandles kind ↔ b.IsOpen kind h := by
  cases kind with
  | scope => exact hk.scopes.mem_open_iff
  | test => exact hk.tests.mem_open_iff
  | fixture =>
    obtain ⟨stopped, hl⟩ := hk.fixtures
    exact hl.mem_open_iff

/-- The next handle has not been used in any call. -/
theorem drawn_new (hk : b.Kept) : ∀ call ∈ b.calls, call.2 ≠ .drawn b.drawn :=
  fun call hcall => (hk.isBefore call hcall).ne_drawn

/-- One more call on a handle that has been drawn leaves all calls on such handles. -/
theorem isBefore_snoc (hk : b.Kept) {n : Nat} (hn : b.drawn ≤ n) {op : Operation}
    (hh : h.IsBefore n) : ∀ call ∈ b.calls ++ [(op, h)], call.2.IsBefore n := by
  rw [List.forall_mem_append, List.forall_mem_singleton]
  exact ⟨fun call hcall => (hk.isBefore call hcall).mono hn, hh⟩

/-- What is open has been drawn. -/
private theorem isBefore_of_mem (hk : b.Kept) (hh : h ∈ b.openHandles kind) : h.IsBefore b.drawn :=
  hk.isBefore _ (hk.mem_openHandles_iff.1 hh).1

/-- The next handle has been drawn with the call that draws it. -/
theorem isBefore_drawn (n : Nat) : (Handle.drawn n).IsBefore (n + 1) :=
  ⟨n, Nat.lt_succ_self n, rfl⟩

end Kept

/-- What can be looked up is held. -/
theorem mem_handles_of_get? {α : Type} {t : Table α} {a : α} (hget : t.get? h = some a) :
    h ∈ t.handles :=
  List.mem_map_of_mem (Table.mem_of_get? hget)

namespace Kept

/-! Each call keeps what all calls keep: one lemma for each kind of change. -/

/-- A scope that starts is kept under a new handle. -/
private theorem startScope (hk : b.Kept) :
    Kept { b with
      drawn := b.drawn + 1
      scopes := b.scopes.insert (.drawn b.drawn) ⟨.drawn b.drawn, [], [], []⟩
      calls := b.calls ++ [(.startScope, .drawn b.drawn)] } := by
  obtain ⟨stopped, hrunning⟩ := hk.fixtures
  exact
    { memory := hk.memory
      isBefore := hk.isBefore_snoc (Nat.le_succ _) (isBefore_drawn _)
      scopes := hk.scopes.snoc_open (by decide) hk.drawn_new
      tests := hk.tests.snoc_other (by decide) (by decide) _
      fixtures := ⟨stopped, hrunning.snoc_other (by decide) (by decide) _⟩
      keyedScopes := List.forall_mem_cons.2 ⟨rfl, hk.keyedScopes⟩
      keyedTests := hk.keyedTests }

/-- A scope goes over from those that are open to those that have been written. -/
private theorem writeScope (hk : b.Kept) {s : Scope} (hs : b.scopes.get? h = some s) :
    Kept { b with
      scopes := b.scopes.remove h
      writtenScopes := b.writtenScopes ++ [s]
      calls := b.calls ++ [(.writeScope, h)] } := by
  obtain ⟨stopped, hrunning⟩ := hk.fixtures
  have hopen : h ∈ b.openHandles .scope := mem_handles_of_get? hs
  have hhandle : s.handle = h := hk.keyedScopes _ (Table.mem_of_get? hs)
  -- the scope is written under the handle it was open with
  have hledger := hk.scopes.snoc_close (by decide) hopen
  exact
    { memory := hk.memory
      isBefore := hk.isBefore_snoc (Nat.le_refl _) (hk.isBefore_of_mem hopen)
      scopes := by
        simpa only [Table.handles_remove, List.map_append, List.map_singleton, hhandle]
          using hledger
      tests := hk.tests.snoc_other (by decide) (by decide) _
      fixtures := ⟨stopped, hrunning.snoc_other (by decide) (by decide) _⟩
      keyedScopes := fun e he => hk.keyedScopes e (Table.mem_of_mem_remove he)
      keyedTests := hk.keyedTests }

/-- Scopes may list a new test, but they keep their handles. -/
private theorem startTest (hk : b.Kept) (name : String) (start : Int) (path : List Handle) :
    Kept { b with
      drawn := b.drawn + 1
      tests := b.tests.insert (.drawn b.drawn)
        ⟨{ handle := .drawn b.drawn, name := name, start := start }, []⟩
      scopes := path.foldl (fun open_ s => open_.change s (·.addChild (.drawn b.drawn))) b.scopes
      calls := b.calls ++ [(.startTest, .drawn b.drawn)] } := by
  obtain ⟨stopped, hrunning⟩ := hk.fixtures
  have hop : Operation.startTest ≠ .startScope ∧ Operation.startTest ≠ .writeScope := by decide
  -- the scopes on the path get a child and stay open
  have hledger := hk.scopes.snoc_other hop.1 hop.2 (.drawn b.drawn)
  exact
    { memory := hk.memory
      isBefore := hk.isBefore_snoc (Nat.le_succ _) (isBefore_drawn _)
      scopes := by simpa only [Table.handles_foldl_change] using hledger
      tests := hk.tests.snoc_open (by decide) hk.drawn_new
      fixtures := ⟨stopped, hrunning.snoc_other (by decide) (by decide) _⟩
      keyedScopes := Table.forall_foldl_change hk.keyedScopes path fun _ _ hs => hs
      keyedTests := List.forall_mem_cons.2 ⟨rfl, hk.keyedTests⟩ }

/-- No ledger counts a call that changes a test. -/
private theorem changeTest (hk : b.Kept) {op : Operation}
    (hop : op = .updateTest ∨ op = .stopTest ∨ op = .applyMessages)
    (hopen : h ∈ b.openHandles .test) {f : OpenTest → OpenTest} (hf : OpenTest.KeepsHandle f)
    {n : Nat} (hn : b.drawn ≤ n) (attachments : List (String × Bytes)) :
    Kept { b with
      drawn := n
      tests := b.tests.change h f
      attachments := attachments
      calls := b.calls ++ [(op, h)] } := by
  obtain ⟨stopped, hrunning⟩ := hk.fixtures
  -- these operations neither open nor close anything
  obtain ⟨hscope, hscope', htest, htest', hfixture, hfixture'⟩ : op ≠ .startScope
      ∧ op ≠ .writeScope ∧ op ≠ .startTest ∧ op ≠ .writeTest ∧ op ≠ .startFixture
      ∧ op ≠ .stopFixture := by
    rcases hop with rfl | rfl | rfl <;> decide
  -- the test stays open under its handle
  have hledger := hk.tests.snoc_other htest htest' h
  exact
    { memory := hk.memory
      isBefore := hk.isBefore_snoc hn ((hk.isBefore_of_mem hopen).mono hn)
      scopes := hk.scopes.snoc_other hscope hscope' h
      tests := by simpa only [Table.handles_change] using hledger
      fixtures := ⟨stopped, hrunning.snoc_other hfixture hfixture' h⟩
      keyedScopes := hk.keyedScopes
      keyedTests := Table.forall_change hk.keyedTests fun t ht => (hf t).trans ht }

/-- A test goes over from those that are open to those that have been written. -/
private theorem writeTest (hk : b.Kept) {t : OpenTest} (ht : b.tests.get? h = some t) :
    Kept { b with
      tests := b.tests.remove h
      writtenTests := b.writtenTests ++ [t.snapshot]
      calls := b.calls ++ [(.writeTest, h)] } := by
  obtain ⟨stopped, hrunning⟩ := hk.fixtures
  have hopen : h ∈ b.openHandles .test := mem_handles_of_get? ht
  -- what is written of the test still has its handle
  have hhandle : t.snapshot.handle = h :=
    t.handle_snapshot.trans (hk.keyedTests _ (Table.mem_of_get? ht))
  have hledger := hk.tests.snoc_close (by decide) hopen
  exact
    { memory := hk.memory
      isBefore := hk.isBefore_snoc (Nat.le_refl _) (hk.isBefore_of_mem hopen)
      scopes := hk.scopes.snoc_other (by decide) (by decide) _
      tests := by
        simpa only [Table.handles_remove, List.map_append, List.map_singleton, hhandle]
          using hledger
      fixtures := ⟨stopped, hrunning.snoc_other (by decide) (by decide) _⟩
      keyedScopes := hk.keyedScopes
      keyedTests := fun e he => hk.keyedTests e (Table.mem_of_mem_remove he) }

/-- A fixture that starts is kept under a new handle and listed in its scope. -/
private theorem startFixture (hk : b.Kept) (scope : Handle) (kind : HookKind) (name : String)
    (start : Int) :
    Kept { b with
      drawn := b.drawn + 1
      scopes := b.scopes.change scope (·.addFixture kind (.drawn b.drawn))
      fixtures := b.fixtures.insert (.drawn b.drawn)
        { handle := .drawn b.drawn, name := name, kind := kind, start := start }
      running := .drawn b.drawn :: b.running
      calls := b.calls ++ [(.startFixture, .drawn b.drawn)] } := by
  obtain ⟨stopped, hrunning⟩ := hk.fixtures
  have hop : Operation.startFixture ≠ .startScope ∧ Operation.startFixture ≠ .writeScope := by
    decide
  -- the scope that lists it stays open as it was
  have hledger := hk.scopes.snoc_other hop.1 hop.2 (.drawn b.drawn)
  exact
    { memory := hk.memory
      isBefore := hk.isBefore_snoc (Nat.le_succ _) (isBefore_drawn _)
      scopes := by simpa only [Table.handles_change] using hledger
      tests := hk.tests.snoc_other (by decide) (by decide) _
      fixtures := ⟨stopped, hrunning.snoc_open (by decide) hk.drawn_new⟩
      keyedScopes := Table.forall_change hk.keyedScopes fun s hs =>
        (Standing.handle_addFixture s _ _).trans hs
      keyedTests := hk.keyedTests }

/-- A fixture that changes stays the one it was. -/
private theorem updateFixture (hk : b.Kept) (hopen : h ∈ b.openHandles .fixture)
    (f : FixtureResult → FixtureResult) :
    Kept { b with
      fixtures := b.fixtures.change h f
      calls := b.calls ++ [(.updateFixture, h)] } := by
  obtain ⟨stopped, hrunning⟩ := hk.fixtures
  exact
    { memory := hk.memory
      isBefore := hk.isBefore_snoc (Nat.le_refl _) (hk.isBefore_of_mem hopen)
      scopes := hk.scopes.snoc_other (by decide) (by decide) _
      tests := hk.tests.snoc_other (by decide) (by decide) _
      fixtures := ⟨stopped, hrunning.snoc_other (by decide) (by decide) _⟩
      keyedScopes := hk.keyedScopes
      keyedTests := hk.keyedTests }

/-- The report does not keep a list of the fixtures that have been stopped, the ledger does. -/
private theorem stopFixture (hk : b.Kept) (hopen : h ∈ b.openHandles .fixture)
    (stop duration : Option Int) :
    Kept { b with
      running := b.running.filter (· != h)
      fixtures := b.fixtures.change h (·.stopped stop duration)
      calls := b.calls ++ [(.stopFixture, h)] } := by
  obtain ⟨stopped, hrunning⟩ := hk.fixtures
  have hfilter : b.running.filter (· != h) = b.running.filter (· ≠ h) := by
    simp only [bne, beq_eq_decide, ne_eq, decide_not]
  exact
    { memory := hk.memory
      isBefore := hk.isBefore_snoc (Nat.le_refl _) (hk.isBefore_of_mem hopen)
      scopes := hk.scopes.snoc_other (by decide) (by decide) _
      tests := hk.tests.snoc_other (by decide) (by decide) _
      fixtures := ⟨_, hfilter ▸ hrunning.snoc_close (by decide) hopen⟩
      keyedScopes := hk.keyedScopes
      keyedTests := hk.keyedTests }

end Kept

/-- Each call keeps what all calls keep. -/
theorem Deed.kept (hd : Deed b c b') (hc : c.KeepsHandle) (hk : b.Kept) : b'.Kept := by
  cases hd with
  | startScope => exact hk.startScope
  | writeScope hs => exact hk.writeScope hs
  | startTest name start path => exact hk.startTest name start path
  | changeTest htarget hop ht hf hn attachments =>
    exact hk.changeTest hop (mem_handles_of_get? ht) (hf hc) hn attachments
  | writeTest ht => exact hk.writeTest ht
  | declined => exact hk
  | startFixture hh kind name start => exact hk.startFixture _ kind name start
  | updateFixture hh f => exact hk.updateFixture hh f
  | stopFixture hh stop duration => exact hk.stopFixture hh stop duration

/-- What calls can lead a new report to. -/
theorem Reached.kept (hb : Reached b) : b.Kept := by
  induction hb with
  | new disk => exact .new disk
  | @call α c b b' hb hc hleaves ih =>
    rcases refused_or_deed ih.memory c with ⟨kind, h, -, -, herror⟩ | ⟨a, b₁, hruns, hdeed⟩
    · -- a call that is refused leaves the report as it was
      obtain ⟨a, hok⟩ | ⟨e, hfail⟩ := hleaves
      · exact nomatch herror.symm.trans hok
      · cases herror.symm.trans hfail
        exact ih
    · obtain ⟨a', hok⟩ | ⟨e, hfail⟩ := hleaves
      · obtain ⟨-, rfl⟩ := hruns.unique hok
        exact hdeed.kept hc ih
      · exact nomatch hruns.symm.trans hfail

/-! ### What calls leave alone -/

/-- What a call leaves alone: all open tests but the one that it is about, all open scopes but for
what it lists in them, all fixtures but the one that it is about, and all that has been written. The
handle that is drawn next is not in use yet. -/
structure Frame (c : Call α) (b b' : Backend) : Prop where
  tests : ∀ h, h ≠ .drawn b.drawn → c.target? ≠ some (.test, h) →
    b'.tests.get? h = b.tests.get? h
  scopes : ∀ h, h ≠ .drawn b.drawn → c.target? ≠ some (.scope, h) →
    b'.scopes.get? h = (b.scopes.get? h).map (c.listing (.drawn b.drawn) h)
  fixtures : ∀ h, h ≠ .drawn b.drawn → c.target? ≠ some (.fixture, h) →
    b'.fixtures.get? h = b.fixtures.get? h
  writtenTests : b'.writtenTests = b.writtenTests ++ c.testsWritten b
  writtenScopes : b'.writtenScopes = b.writtenScopes ++ c.scopesWritten b

/-- A call that lists nothing leaves every scope as it is. -/
private theorem map_eq_self {new : Handle} (hlisting : ∀ s, c.listing new h s = s)
    (v : Option Scope) :
    v.map (c.listing new h) = v := by
  cases v with
  | none => rfl
  | some s => rw [Option.map_some, hlisting]

/-- A call that is about something that is open already lists nothing. -/
private theorem map_listing {target : NodeKind × Handle} (hc : c.target? = some target)
    (new : Handle) (v : Option Scope) : v.map (c.listing new h) = v := by
  apply map_eq_self
  intro s
  cases c with
  | startScope | startTest | startFixture => cases hc
  | _ => rfl

/-- Only one operation writes tests. -/
theorem testsWritten_eq_nil (hc : c.operation ≠ .writeTest) : c.testsWritten b = [] := by
  cases c with
  | writeTest => exact absurd rfl hc
  | _ => rfl

/-- Only one operation writes scopes. -/
theorem scopesWritten_eq_nil (hc : c.operation ≠ .writeScope) : c.scopesWritten b = [] := by
  cases c with
  | writeScope => exact absurd rfl hc
  | _ => rfl

/-- A call that is refused leaves everything alone. -/
private theorem frame_of_refused (hc : c.target? = some (kind, h)) (hh : h ∉ b.openHandles kind) :
    Frame c b b where
  tests := fun _ _ _ => rfl
  scopes := fun _ _ _ => (map_listing hc _ _).symm
  fixtures := fun _ _ _ => rfl
  writtenTests := by
    -- what would be written is not open, so nothing is written
    cases c with
    | writeTest h' =>
      cases hc
      rw [Call.testsWritten, Table.get?_eq_none hh]
      exact (List.append_nil _).symm
    | _ => exact (List.append_nil _).symm
  writtenScopes := by
    cases c with
    | writeScope h' =>
      cases hc
      rw [Call.scopesWritten, Table.get?_eq_none hh]
      exact (List.append_nil _).symm
    | _ => exact (List.append_nil _).symm

/-- A call that writes nothing leaves everything alone that has been written. -/
private theorem frame_of_unwritten
    (hop : c.operation ≠ .writeTest ∧ c.operation ≠ .writeScope)
    (hwritten : b'.writtenTests = b.writtenTests ∧ b'.writtenScopes = b.writtenScopes)
    (htests : ∀ h, h ≠ .drawn b.drawn → c.target? ≠ some (.test, h) →
      b'.tests.get? h = b.tests.get? h)
    (hscopes : ∀ h, h ≠ .drawn b.drawn → c.target? ≠ some (.scope, h) →
      b'.scopes.get? h = (b.scopes.get? h).map (c.listing (.drawn b.drawn) h))
    (hfixtures : ∀ h, h ≠ .drawn b.drawn → c.target? ≠ some (.fixture, h) →
      b'.fixtures.get? h = b.fixtures.get? h) : Frame c b b' where
  tests := htests
  scopes := hscopes
  fixtures := hfixtures
  writtenTests := by rw [hwritten.1, testsWritten_eq_nil hop.1, List.append_nil]
  writtenScopes := by rw [hwritten.2, scopesWritten_eq_nil hop.2, List.append_nil]

/-- Writing a scope leaves alone what is not that scope. -/
private theorem frame_writeScope {s : Scope} (hs : b.scopes.get? h = some s)
    (hscopes : b'.scopes = b.scopes.remove h)
    (hwritten : b'.writtenScopes = b.writtenScopes ++ [s])
    (hrest : b'.tests = b.tests ∧ b'.fixtures = b.fixtures ∧ b'.writtenTests = b.writtenTests) :
    Frame (.writeScope h) b b' where
  tests := fun _ _ _ => by rw [hrest.1]
  scopes := fun x _ htarget => by
    have hne : x ≠ h := fun heq => htarget (heq ▸ rfl)
    rw [hscopes, Table.get?_remove_of_ne hne, map_listing rfl]
  fixtures := fun _ _ _ => by rw [hrest.2.1]
  writtenTests := by
    have hop : (Call.writeScope h).operation ≠ .writeTest := nofun
    rw [hrest.2.2, testsWritten_eq_nil hop, List.append_nil]
  writtenScopes := by rw [hwritten, Call.scopesWritten, hs, Option.toList_some]

/-- Writing a test leaves alone what is not that test. -/
private theorem frame_writeTest {t : OpenTest} (ht : b.tests.get? h = some t)
    (htests : b'.tests = b.tests.remove h)
    (hwritten : b'.writtenTests = b.writtenTests ++ [t.snapshot])
    (hrest : b'.scopes = b.scopes ∧ b'.fixtures = b.fixtures
      ∧ b'.writtenScopes = b.writtenScopes) : Frame (.writeTest h) b b' where
  tests := fun x _ htarget => by
    have hne : x ≠ h := fun heq => htarget (heq ▸ rfl)
    rw [htests, Table.get?_remove_of_ne hne]
  scopes := fun _ _ _ => by rw [hrest.1, map_listing rfl]
  fixtures := fun _ _ _ => by rw [hrest.2.1]
  writtenTests := by rw [hwritten, Call.testsWritten, ht, Option.map_some, Option.toList_some]
  writtenScopes := by
    have hop : (Call.writeTest h).operation ≠ .writeScope := nofun
    rw [hrest.2.2, scopesWritten_eq_nil hop, List.append_nil]

/-- The scope that would list a fixture which is declined is not there. -/
private theorem frame_declined {scope : Option Handle}
    (hscope : ∀ h, scope = some h → h ∉ b.scopes.handles) (kind : HookKind) (name : String)
    (start : Int) : Frame (.startFixture scope kind name start) b b := by
  refine frame_of_unwritten ⟨nofun, nofun⟩ ⟨rfl, rfl⟩ (fun _ _ _ => rfl) (fun h _ _ => ?_)
    fun _ _ _ => rfl
  cases scope with
  | none => exact (map_eq_self (fun _ => rfl) _).symm
  | some x =>
    by_cases heq : h = x
    -- the scope asked for is not open, so no scope is listed differently
    · rw [heq, Table.get?_eq_none (hscope x rfl), Option.map_none]
    · have hlisting : ∀ s, (Call.startFixture (some x) kind name start).listing
          (.drawn b.drawn) h s = s := fun _ => if_neg heq
      exact (map_eq_self hlisting _).symm

/-- A call that does what it says reaches no further than that. -/
theorem Deed.frame (hd : Deed b c b') : Frame c b b' := by
  cases hd with
  -- what is started is new, and is not looked up
  | startScope =>
    exact frame_of_unwritten ⟨nofun, nofun⟩ ⟨rfl, rfl⟩ (fun _ _ _ => rfl)
      (fun h hh _ => (Table.get?_insert_of_ne hh _).trans (map_eq_self (fun _ => rfl) _).symm)
      fun _ _ _ => rfl
  | writeScope hs => exact frame_writeScope hs rfl rfl ⟨rfl, rfl, rfl⟩
  | startTest name start path =>
    exact frame_of_unwritten ⟨nofun, nofun⟩ ⟨rfl, rfl⟩
      (fun h hh _ => Table.get?_insert_of_ne hh _) (fun h _ _ => get?_foldl_addChild _ _ _ _)
      fun _ _ _ => rfl
  | @changeTest c h t hc hop ht f hf n hn attachments =>
    have hwrites : c.operation ≠ .writeTest ∧ c.operation ≠ .writeScope := by
      rcases hop with hop | hop | hop <;> simp [hop]
    -- a test other than the target is looked up past the change
    refine frame_of_unwritten hwrites ⟨rfl, rfl⟩ (fun x _ htarget => ?_)
      (fun _ _ _ => (map_listing hc _ _).symm) fun _ _ _ => rfl
    have hne : x ≠ h := fun heq => htarget (heq ▸ hc)
    exact Table.get?_change_of_ne hne _
  | writeTest ht => exact frame_writeTest ht rfl rfl ⟨rfl, rfl, rfl⟩
  | declined hscope kind name start => exact frame_declined hscope kind name start
  -- the scope gets a fixture, which is what its listing says
  | @startFixture h hh kind name start =>
    exact frame_of_unwritten ⟨nofun, nofun⟩ ⟨rfl, rfl⟩ (fun _ _ _ => rfl)
      (fun x _ _ => Table.get?_change b.scopes h x (·.addFixture kind (.drawn b.drawn)))
      fun x hx _ => Table.get?_insert_of_ne hx _
  -- a fixture other than the target is looked up past the change
  | @updateFixture h hh f =>
    refine frame_of_unwritten ⟨nofun, nofun⟩ ⟨rfl, rfl⟩ (fun _ _ _ => rfl)
      (fun _ _ _ => (map_listing rfl _ _).symm) fun x _ htarget => ?_
    have hne : x ≠ h := fun heq => htarget (heq ▸ rfl)
    exact Table.get?_change_of_ne hne _
  | @stopFixture h hh stop duration =>
    refine frame_of_unwritten ⟨nofun, nofun⟩ ⟨rfl, rfl⟩ (fun _ _ _ => rfl)
      (fun _ _ _ => (map_listing rfl _ _).symm) fun x _ htarget => ?_
    have hne : x ≠ h := fun heq => htarget (heq ▸ rfl)
    exact Table.get?_change_of_ne hne fun r => FixtureResult.stopped r stop duration

/-- A call on something goes through just if that is open. -/
theorem Deed.opened (hd : Deed b c b') (hc : c.target? = some (kind, h)) :
    h ∈ b.openHandles kind ∧ b'.calls = b.calls ++ [(c.operation, h)] := by
  cases hd with
  -- what starts something has no handle as its target
  | startScope | startTest | declined | startFixture => cases hc
  | writeScope hs =>
    cases hc
    exact ⟨mem_handles_of_get? hs, rfl⟩
  -- the target of the call is the test that was found
  | changeTest hc' hop ht =>
    cases hc.symm.trans hc'
    exact ⟨mem_handles_of_get? ht, rfl⟩
  | writeTest ht =>
    cases hc
    exact ⟨mem_handles_of_get? ht, rfl⟩
  | updateFixture hh | stopFixture hh =>
    cases hc
    exact ⟨hh, rfl⟩

/-! ### Custody -/

/-- What is true of a report in memory, whatever has been done to it and whatever is done next. -/
structure Custody (b : Backend) : Prop where
  /-- What is started gets a handle that no call has been about, and the calls say so. -/
  started : (∀ call ∈ b.calls, call.2 ≠ .drawn b.drawn)
    ∧ (∃ b', Runs startScope b (.drawn b.drawn) b'
      ∧ b'.calls = b.calls ++ [(.startScope, .drawn b.drawn)])
    ∧ ∀ name start path, ∃ b', Runs (startTest name start path) b (.drawn b.drawn) b'
      ∧ b'.calls = b.calls ++ [(.startTest, .drawn b.drawn)]
  /-- A call on what is not open as the kind it needs is refused, and nothing changes. -/
  refused : ∀ {α : Type} (c : Call α) (kind : NodeKind) (h : Handle),
    c.target? = some (kind, h) → ¬b.IsOpen kind h →
    c.run reporter b = .error (.unknownHandle kind h) b
  /-- A call on what is open goes through. -/
  returns : ∀ {α : Type} (c : Call α) (kind : NodeKind) (h : Handle),
    c.target? = some (kind, h) → b.IsOpen kind h →
    ∃ a b', Runs (c.run reporter) b a b' ∧ b'.calls = b.calls ++ [(c.operation, h)]
  /-- An open test can be looked at, and nothing else can be looked at as a test. -/
  test : ∀ h, (b.IsOpen .test h → ∃ t, Runs (openTest h) b t b ∧ t.result.handle = h)
    ∧ (¬b.IsOpen .test h → openTest h b = .error (.unknownHandle .test h) b)
  /-- Without an open scope a fixture is declined, and nothing happens. -/
  declined : ∀ scope kind name start, (∀ h, scope = some h → ¬b.IsOpen .scope h) →
    Runs (startFixture scope kind name start) b none b
  /-- Every test that has been started is open or written, once and not both. -/
  tests : (b.tests.handles ++ b.writtenTests.map (·.handle)).Perm (calledWith .startTest b.calls)
    ∧ (calledWith .startTest b.calls).Nodup
  /-- Every scope that has been started is open or written, once and not both. -/
  scopes : (b.scopes.handles ++ b.writtenScopes.map (·.handle)).Perm
      (calledWith .startScope b.calls)
    ∧ (calledWith .startScope b.calls).Nodup
  /-- A call changes nothing but what it is about, however it ends. -/
  frame : ∀ {α : Type} (c : Call α) (b' : Backend), Leaves (c.run reporter) b b' → Frame c b b'

/-- What is kept at every step is what custody asks for. -/
private theorem Kept.hasCustody (hk : b.Kept) : b.Custody where
  started := ⟨hk.drawn_new, ⟨_, runs_startScope b, rfl⟩,
    fun name start path => ⟨_, runs_startTest b name start path, rfl⟩⟩
  refused c kind h hc hclosed := by
    rw [← hk.mem_openHandles_iff] at hclosed
    rcases refused_or_deed hk.memory c with ⟨kind', h', hc', -, herror⟩ | ⟨a, b', -, hdeed⟩
    · cases hc.symm.trans hc'
      exact herror
    · exact absurd (hdeed.opened hc).1 hclosed
  returns c kind h hc hopen := by
    rw [← hk.mem_openHandles_iff] at hopen
    -- the call cannot be refused, since its target is open
    rcases refused_or_deed hk.memory c with ⟨kind', h', hc', hclosed, -⟩ | ⟨a, b', hruns, hdeed⟩
    · cases hc.symm.trans hc'
      exact absurd hopen hclosed
    · exact ⟨a, b', hruns, (hdeed.opened hc).2⟩
  test h := by
    rw [← hk.mem_openHandles_iff]
    constructor
    -- an open test is found, and under its own handle
    · intro hopen
      obtain ⟨t, ht⟩ := Table.exists_get? hopen
      exact ⟨t, runs_openTest ht, hk.keyedTests _ (Table.mem_of_get? ht)⟩
    · intro hclosed
      exact openTest_eq_error (Table.get?_eq_none hclosed)
  declined scope kind name start hscope := by
    apply runs_startFixture_of_closed
    intro h hh hmem
    exact hscope h hh (hk.mem_openHandles_iff.1 hmem)
  tests := ⟨hk.tests.perm, hk.tests.nodup⟩
  scopes := ⟨hk.scopes.perm, hk.scopes.nodup⟩
  frame c b' hleaves := by
    rcases refused_or_deed hk.memory c with ⟨kind, h, hc, hclosed, herror⟩ | ⟨a, b₁, hruns, hdeed⟩
    -- a call that is refused fails, one that is done returns
    · obtain ⟨a, hok⟩ | ⟨e, hfail⟩ := hleaves
      · exact nomatch herror.symm.trans hok
      · cases herror.symm.trans hfail
        exact frame_of_refused hc hclosed
    · obtain ⟨a', hok⟩ | ⟨e, hfail⟩ := hleaves
      · obtain ⟨-, rfl⟩ := hruns.unique hok
        exact hdeed.frame
      · exact nomatch hruns.symm.trans hfail

/-- Whatever calls lead a new report to, and in whichever order they come: no handle is lost, none
stands for two things, and no call reaches further than its handle. -/
theorem Reached.custody (hb : Reached b) : b.Custody :=
  hb.kept.hasCustody

/-- A scope that has been written cannot be written again. -/
theorem Reached.custody_of_written_scope :
    ∃ b, Reached b ∧ b.calls = [(.startScope, .drawn 0), (.writeScope, .drawn 0)]
      ∧ writeScope (.drawn 0) b = .error (.unknownHandle .scope (.drawn 0)) b := by
  have hstarted : Reached _ := .call (c := .startScope) (.new {}) trivial (.inl ⟨_, rfl⟩)
  have hwritten : Reached _ := .call (c := .writeScope (.drawn 0)) hstarted trivial
    (.inl ⟨(), runs_writeScope rfl (Table.get?_cons_self _ _ _)⟩)
  refine ⟨_, hwritten, rfl, hwritten.custody.refused (.writeScope (.drawn 0)) .scope _ rfl ?_⟩
  intro hopen
  exact hopen.2 (List.mem_append_right _ (List.mem_singleton.2 rfl))

end Backend

end Chronicle
