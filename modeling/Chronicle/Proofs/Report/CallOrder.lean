import Chronicle.Report.Backend

/-!
# The order of calls

`InOrder` says in which order a report is called: scopes are brackets, a test is started right
behind its own scope and written after it, no scope and no test starts in between, and some fixtures
start only while no test is open. A `Monitor` goes through the calls one by one and knows no more
than what is needed to tell whether the next one is in order; what it lets pass is in order
(`Monitor.Follows.inOrder`).
-/
namespace Chronicle

/-- A call, and the handle that it is about. -/
abbrev HandleCall := Operation × Handle

/-- What the calls of an operation are about, in order. -/
def handlesOf (op : Operation) (calls : List HandleCall) : List Handle :=
  (calls.filter (·.1 = op)).map (·.2)

theorem handlesOf_snoc (op : Operation) (calls : List HandleCall) (c : HandleCall) :
    handlesOf op (calls ++ [c]) = handlesOf op calls ++ if c.1 = op then [c.2] else [] := by
  by_cases hop : c.1 = op <;> simp [handlesOf, hop]

/-- Whether an operation neither opens nor writes anything. -/
def Operation.isUse : Operation → Bool
  | .updateTest | .stopTest | .applyMessages | .updateFixture | .stopFixture => true
  | _ => false

/-- The handles of the scopes that are open after a call, the innermost first. A scope can only be
written if it is the innermost one. -/
def bracket : List Handle → HandleCall → Option (List Handle)
  | open_, (.startScope, s) => some (s :: open_)
  | open_, (.writeScope, s) => if open_.head? = some s then some open_.tail else none
  | open_, _ => some open_

/-- A test has been started, and it has not been written. -/
def IsOpenTest (calls : List HandleCall) (t : Handle) : Prop :=
  (.startTest, t) ∈ calls ∧ (.writeTest, t) ∉ calls

/-- The calls of a report are in order. The tests and scopes are those that have been written, the
fixtures are those of the report, and some names belong to fixtures that start after all tests. -/
structure InOrder (isAfterAll : String → Bool) (tests : List TestResult) (scopes : List Scope)
    (fixtures : Table FixtureResult) (calls : List HandleCall) : Prop where
  /-- The tests that are started are those that are written, in the same order. -/
  started : handlesOf .startTest calls = tests.map (·.handle)
  /-- The scopes are written in the order in which they are listed. -/
  written : handlesOf .writeScope calls = scopes.map (·.handle)
  /-- Scopes are written from the inside out, and all of them are. -/
  brackets : calls.foldlM bracket [] = some []
  /-- A test is started right behind its own scope, which has no other child. That scope is written
  before the test is, and up to then no scope and no test is started. -/
  lodged : ∀ before t after, calls = before ++ (.startTest, t) :: after →
    ∃ earlier own between later, before = earlier ++ [(.startScope, own)]
      ∧ after = between ++ (.writeTest, t) :: later
      ∧ (∀ call ∈ between, call.1 ≠ .startScope ∧ call.1 ≠ .startTest)
      ∧ (.writeScope, own) ∈ between
      ∧ ∃ s ∈ scopes, s.handle = own ∧ s.children = [t]
  /-- At no time two tests are open. -/
  single : ∀ before after, calls = before ++ after →
    ∀ t t', IsOpenTest before t → IsOpenTest before t' → t = t'
  /-- Every fixture has a record, and by its name it may have to wait for the test to be written. -/
  fixtures : ∀ before h after, calls = before ++ (.startFixture, h) :: after →
    ∃ r, fixtures.get? h = some r ∧ (isAfterAll r.name = true → ∀ t, ¬IsOpenTest before t)

private theorem split_of_snoc_eq {α : Type} {calls before after : List α} {c x : α}
    (h : calls ++ [c] = before ++ x :: after) :
    (calls = before ∧ c = x ∧ after = [])
      ∨ ∃ after', calls = before ++ x :: after' ∧ after = after' ++ [c] := by
  rcases List.eq_nil_or_concat after with rfl | ⟨after', y, rfl⟩
  · obtain ⟨rfl, heq⟩ := List.append_inj' h rfl
    exact .inl ⟨rfl, List.singleton_inj.1 heq, rfl⟩
  · have h' : calls ++ [c] = (before ++ x :: after') ++ [y] := by simpa using h
    obtain ⟨rfl, heq⟩ := List.append_inj' h' rfl
    cases heq
    exact .inr ⟨after', rfl, List.concat_eq_append⟩

/-! ### Following the calls -/

/-- An open test and its own scope, which may have been written. -/
structure Lodging where
  test : Handle
  own : Handle
  written : Bool
  deriving DecidableEq, Repr, Inhabited

/-- The lodging after a scope has been written. -/
def Lodging.scopeWritten (l : Lodging) (s : Handle) : Lodging :=
  { l with written := l.written || l.own == s }

/-- What is known of a report from its calls so far. -/
structure Monitor where
  /-- The open scopes, the innermost first. -/
  scopes : List Handle := []
  /-- The scope that was started by the last call, if it was one. -/
  fresh : Option Handle := none
  current : Option Lodging := none
  /-- All tests so far, behind their own scopes. -/
  lodged : List (Handle × Handle) := []
  /-- All fixtures so far, and whether a test was open when they were started. -/
  fixtures : List (Handle × Bool) := []
  deriving DecidableEq, Repr, Inhabited

namespace Monitor

/-- A call that is in order, and what is known after it. -/
inductive Step (m : Monitor) : HandleCall → Monitor → Prop
  | startScope (s : Handle) (hnone : m.current = none) :
    Step m (.startScope, s) { m with scopes := s :: m.scopes, fresh := some s }
  | writeScope {s : Handle} {rest : List Handle} (hs : m.scopes = s :: rest) :
    Step m (.writeScope, s) { m with
      scopes := rest
      fresh := none
      current := m.current.map (·.scopeWritten s) }
  | startTest (t : Handle) {own : Handle} (hown : m.fresh = some own) (hnone : m.current = none) :
    Step m (.startTest, t) { m with
      fresh := none
      current := some ⟨t, own, false⟩
      lodged := m.lodged ++ [(own, t)] }
  | writeTest {l : Lodging} (hl : m.current = some l) (hwritten : l.written = true) :
    Step m (.writeTest, l.test) { m with fresh := none, current := none }
  | startFixture (h : Handle) :
    Step m (.startFixture, h) { m with
      fresh := none
      fixtures := m.fixtures ++ [(h, m.current.isSome)] }
  | use {op : Operation} (hop : op.isUse = true) (h : Handle) :
    Step m (op, h) { m with fresh := none }

/-- Calls all of which are in order, and what is known after them. -/
inductive Follows : List HandleCall → Monitor → Prop
  | nil : Follows [] {}
  | snoc {calls : List HandleCall} {m m' : Monitor} {c : HandleCall} (h : Follows calls m)
      (hstep : m.Step c m') : Follows (calls ++ [c]) m'

variable {calls before after : List HandleCall} {m : Monitor}

/-- What came before has been in order as well. -/
private theorem Follows.exists_of_append (h : Follows (before ++ after) m) :
    ∃ m', Follows before m' := by
  generalize heq : before ++ after = calls at h
  induction h generalizing after with
  | nil =>
    obtain ⟨rfl, rfl⟩ := List.append_eq_nil_iff.1 heq
    exact ⟨_, .nil⟩
  | @snoc calls m m' c h hstep ih =>
    rcases List.eq_nil_or_concat after with rfl | ⟨after', c', rfl⟩
    · rw [List.append_nil] at heq
      exact ⟨_, heq ▸ Follows.snoc h hstep⟩
    -- the last call is not among the first ones, so it is left off
    · have heq' : (before ++ after') ++ [c'] = calls ++ [c] := by simpa using heq
      exact ih (List.append_inj' heq' rfl).1

/-! ### What the monitor knows -/

private theorem Follows.brackets (h : Follows calls m) :
    calls.foldlM bracket [] = some m.scopes := by
  induction h with
  | nil => rfl
  | snoc h hstep ih =>
    rw [List.foldlM_append, ih]
    -- only the calls on scopes count as brackets
    cases hstep with
    | startScope s hnone => rfl
    | writeScope hs => simp [bracket, hs]
    | startTest t hown hnone => rfl
    | writeTest hl hwritten => rfl
    | startFixture f => rfl
    | @use op hop f => cases op <;> cases hop <;> rfl

/-- The monitor knows the open test. -/
private theorem Follows.current_of_isOpenTest (h : Follows calls m) {t : Handle}
    (ht : IsOpenTest calls t) :
    m.current.map (·.test) = some t := by
  induction h generalizing t with
  | nil => cases ht.1
  | @snoc calls m m' c h hstep ih =>
    obtain ⟨hstarted, hwritten⟩ := ht
    rw [List.mem_append, not_or] at hwritten
    rcases List.mem_append.1 hstarted with hstarted | hstarted
    -- the test was started before this call
    · have hcurrent := ih ⟨hstarted, hwritten.1⟩
      cases hstep with
      | startScope s hnone => exact hcurrent
      | writeScope hs =>
        rw [← hcurrent, Option.map_map]
        rfl
      | startTest t' hown hnone =>
        rw [hnone] at hcurrent
        cases hcurrent
      | @writeTest l hl hleft =>
        rw [hl] at hcurrent
        cases hcurrent
        exact absurd (List.mem_singleton_self _) hwritten.2
      | startFixture f => exact hcurrent
      | use hop f => exact hcurrent
    -- the test is started by this call
    · rw [List.mem_singleton] at hstarted
      cases hstep with
      | startTest t' hown hnone =>
        cases hstarted
        rfl
      | use hop f =>
        cases hstarted
        cases hop
      | _ => cases hstarted

theorem Follows.fresh (h : Follows calls m) {own : Handle} (hown : m.fresh = some own) :
    ∃ earlier, calls = earlier ++ [(.startScope, own)] := by
  cases h with
  | nil => cases hown
  | @snoc calls _ _ _ h hstep =>
    cases hstep with
    | startScope s hnone =>
      cases hown
      exact ⟨calls, rfl⟩
    | _ => cases hown

private theorem Step.mem_lodged {m' : Monitor} {c : HandleCall} (hstep : m.Step c m')
    {e : Handle × Handle} (he : e ∈ m.lodged) : e ∈ m'.lodged := by
  cases hstep with
  | startTest t hown hnone => exact List.mem_append_left _ he
  | _ => exact he

theorem Step.mem_fixtures {m' : Monitor} {c : HandleCall} (hstep : m.Step c m')
    {e : Handle × Bool} (he : e ∈ m.fixtures) : e ∈ m'.fixtures := by
  cases hstep with
  | startFixture f => exact List.mem_append_left _ he
  | _ => exact he

/-- What follows the start of a test while it is open. -/
def Within (calls : List HandleCall) : Prop :=
  ∀ call ∈ calls, call.1 ≠ .startScope ∧ call.1 ≠ .startTest

theorem Within.snoc {c : HandleCall} (h : Within calls) (hscope : c.1 ≠ .startScope)
    (htest : c.1 ≠ .startTest) : Within (calls ++ [c]) := by
  intro call hcall
  rcases List.mem_append.1 hcall with hcall | hcall
  · exact h call hcall
  · rw [List.mem_singleton.1 hcall]
    exact ⟨hscope, htest⟩

/-- What has become of a test that was started with a scope of its own: it has been written after
that scope, or the monitor has it as the open test. -/
inductive Fate (m : Monitor) (own t : Handle) : List HandleCall → Prop
  | written {between : List HandleCall} (later : List HandleCall) (hwithin : Within between)
      (hown : (.writeScope, own) ∈ between) : Fate m own t (between ++ (.writeTest, t) :: later)
  | open_ {after : List HandleCall} {written : Bool} (hcurrent : m.current = some ⟨t, own, written⟩)
      (hwithin : Within after) (hown : written = true → (.writeScope, own) ∈ after) :
      Fate m own t after

theorem Fate.step {own t : Handle} {m' : Monitor} {c : HandleCall} (h : Fate m own t after)
    (hstep : m.Step c m') : Fate m' own t (after ++ [c]) := by
  cases h with
  -- the test has been written, and later calls do not matter
  | written later hwithin hown =>
    rw [List.append_assoc, List.cons_append]
    exact .written _ hwithin hown
  | open_ hcurrent hwithin hown =>
    cases hstep with
    | startScope s hnone => rw [hnone] at hcurrent; cases hcurrent
    -- if it is the own scope, it is noted as written
    | @writeScope s rest hs =>
      refine .open_ (by simp only [hcurrent]; rfl) (hwithin.snoc nofun nofun) fun hwritten => ?_
      rcases Bool.or_eq_true_iff.1 hwritten with hwritten | heq
      · exact List.mem_append_left _ (hown hwritten)
      · rw [← beq_iff_eq.1 heq]
        exact List.mem_append_right _ (List.mem_singleton_self _)
    | startTest t' hfresh hnone => rw [hnone] at hcurrent; cases hcurrent
    -- the test is written, and its scope has been written before
    | writeTest hl hleft =>
      rw [hl] at hcurrent
      cases hcurrent
      exact .written [] hwithin (hown hleft)
    | startFixture f =>
      exact .open_ hcurrent (hwithin.snoc nofun nofun) fun h => List.mem_append_left _ (hown h)
    | use hop f =>
      refine .open_ hcurrent (hwithin.snoc ?_ ?_) fun h => List.mem_append_left _ (hown h) <;>
        rintro rfl <;> cases hop

/-- A test is started right behind its own scope, and the monitor knows the two. -/
theorem Follows.tests (h : Follows calls m) {t : Handle}
    (hcalls : calls = before ++ (.startTest, t) :: after) :
    ∃ earlier own, before = earlier ++ [(.startScope, own)] ∧ (own, t) ∈ m.lodged
      ∧ Fate m own t after := by
  induction h generalizing after with
  | nil => simp at hcalls
  | @snoc calls m m' c h hstep ih =>
    rcases split_of_snoc_eq hcalls with ⟨rfl, rfl, rfl⟩ | ⟨after', hsplit, rfl⟩
    -- the test is started by the last call, right after its own scope
    · cases hstep with
      | @startTest _ own hown hnone =>
        obtain ⟨earlier, rfl⟩ := h.fresh hown
        refine ⟨earlier, own, rfl, List.mem_append_right _ (List.mem_singleton_self _), ?_⟩
        exact .open_ rfl nofun nofun
      | use hop f => cases hop
    -- or by an earlier one, and its fate goes on
    · obtain ⟨earlier, own, hbefore, hlodged, hfate⟩ := ih hsplit
      exact ⟨earlier, own, hbefore, hstep.mem_lodged hlodged, hfate.step hstep⟩

/-- The monitor knows every fixture, and whether a test was open when it was started. -/
theorem Follows.fixtures (h : Follows calls m) {f : Handle}
    (hcalls : calls = before ++ (.startFixture, f) :: after) :
    ∃ open_, (f, open_) ∈ m.fixtures ∧ (open_ = false → ∀ t, ¬IsOpenTest before t) := by
  induction h generalizing after with
  | nil => simp at hcalls
  | @snoc calls m m' c h hstep ih =>
    rcases split_of_snoc_eq hcalls with ⟨rfl, rfl, rfl⟩ | ⟨after', hsplit, rfl⟩
    -- the fixture is started by the last call, and the monitor notes whether a test is open
    · cases hstep with
      | startFixture f =>
        refine ⟨m.current.isSome, List.mem_append_right _ (List.mem_singleton_self _), ?_⟩
        intro hnone t ht
        have hcurrent := h.current_of_isOpenTest ht
        rw [Option.isSome_eq_false_iff, Option.isNone_iff_eq_none] at hnone
        rw [hnone] at hcurrent
        cases hcurrent
      | use hop f => cases hop
    -- or by an earlier one, and the note stays
    · obtain ⟨open_, hmem, hnone⟩ := ih hsplit
      exact ⟨open_, hstep.mem_fixtures hmem, hnone⟩

/-- Calls that a monitor lets pass are in order, if nothing is left open and the report bears out
what the monitor knows of tests and fixtures. -/
theorem Follows.inOrder {isAfterAll : String → Bool} {tests : List TestResult} {scopes : List Scope}
    {fixtures : Table FixtureResult} (h : Follows calls m) (hscopes : m.scopes = [])
    (hnone : m.current = none)
    (hstarted : handlesOf .startTest calls = tests.map (·.handle))
    (hwritten : handlesOf .writeScope calls = scopes.map (·.handle))
    (hlodged : ∀ e ∈ m.lodged, ∃ s ∈ scopes, s.handle = e.1 ∧ s.children = [e.2])
    (hfixtures : ∀ e ∈ m.fixtures, ∃ r, fixtures.get? e.1 = some r
      ∧ (isAfterAll r.name = true → e.2 = false)) :
    InOrder isAfterAll tests scopes fixtures calls where
  started := hstarted
  written := hwritten
  brackets := by rw [h.brackets, hscopes]
  lodged := by
    intro before t after hcalls
    obtain ⟨earlier, own, hbefore, hmem, hfate⟩ := h.tests hcalls
    cases hfate with
    | @written between later hwithin hown =>
      exact ⟨earlier, own, between, later, hbefore, rfl, hwithin, hown, hlodged _ hmem⟩
    -- at the end no test is open any more
    | open_ hcurrent hwithin hown =>
      rw [hnone] at hcurrent
      cases hcurrent
  single := by
    -- the monitor holds one test at a time
    rintro before after rfl t t' ht ht'
    obtain ⟨m', h'⟩ := h.exists_of_append
    exact Option.some.inj ((h'.current_of_isOpenTest ht).symm.trans (h'.current_of_isOpenTest ht'))
  fixtures := by
    intro before f after hcalls
    obtain ⟨open_, hmem, hclosed⟩ := h.fixtures hcalls
    obtain ⟨r, hr, hname⟩ := hfixtures _ hmem
    exact ⟨r, hr, fun hlate => hclosed (hname hlate)⟩

end Monitor

end Chronicle
