import Chronicle.Proofs.Replay.Nesting
import Chronicle.Proofs.Report.Fixtures

/-!
# The fixtures that scopes list

`Backend.hooks` is what a report says about the fixtures of a scope, open or written: their records
as they are at the moment, in the order in which they were started. What has been opened and not
closed is read off the calls: `unclosed` lists it, so that its last entry is what was opened last.
-/
namespace Chronicle

/-! ### What calls leave open -/

/-- The handles that one operation has opened and another one has not closed, in the order in which
they were opened. -/
def unclosed (opens closes : Operation) (calls : List (Operation × Handle)) : List Handle :=
  (calledWith opens calls).filter (· ∉ calledWith closes calls)

/-- One more call adds its handle to those of its operation. -/
theorem calledWith_snoc (op op' : Operation) (h : Handle) (calls : List (Operation × Handle)) :
    calledWith op (calls ++ [(op', h)])
      = calledWith op calls ++ if op' = op then [h] else [] := by
  by_cases heq : op' = op <;> simp [calledWith, heq]

/-- A handle that was called with an operation is in the calls. -/
private theorem mem_calls_of_mem_calledWith {op : Operation} {calls : List (Operation × Handle)}
    {h : Handle} (hh : h ∈ calledWith op calls) : (op, h) ∈ calls := by
  obtain ⟨call, hcall, rfl⟩ := List.mem_map.1 hh
  obtain ⟨hmem, hop⟩ := List.mem_filter.1 hcall
  obtain rfl := of_decide_eq_true hop
  exact hmem

section unclosed

variable {opens closes : Operation} {calls : List (Operation × Handle)}

/-- A call that opens a new handle makes it the last of those not closed. -/
theorem unclosed_snoc_opens (hne : opens ≠ closes) {h : Handle}
    (hnew : ∀ call ∈ calls, call.2 ≠ h) :
    unclosed opens closes (calls ++ [(opens, h)]) = unclosed opens closes calls ++ [h] := by
  have hfresh : h ∉ calledWith closes calls := fun hmem =>
    hnew _ (mem_calls_of_mem_calledWith hmem) rfl
  simp [unclosed, calledWith_snoc, hne, hfresh]

/-- A call that closes a handle takes it out of those not closed. -/
theorem unclosed_snoc_closes (hne : opens ≠ closes) (h : Handle) :
    unclosed opens closes (calls ++ [(closes, h)])
      = (unclosed opens closes calls).filter (· ≠ h) := by
  simp only [unclosed, calledWith_snoc, if_neg hne.symm, if_true, List.append_nil,
    List.filter_filter]
  refine List.filter_congr fun x _ => ?_
  simp [and_comm]

/-- Any other call changes nothing about them. -/
theorem unclosed_snoc_of_ne {op : Operation} (hopens : op ≠ opens) (hcloses : op ≠ closes)
    (h : Handle) : unclosed opens closes (calls ++ [(op, h)]) = unclosed opens closes calls := by
  simp only [unclosed, calledWith_snoc, if_neg hopens, if_neg hcloses, List.append_nil]

end unclosed

/-! ### Fixtures of scopes -/

/-- The fixtures of a kind that a scope lists. -/
def Scope.ofKind (s : Scope) : HookKind → List Handle
  | .before => s.befores
  | .after => s.afters

/-- A fixture that is added is the last of its kind, and none of the other. -/
private theorem Scope.ofKind_addFixture (s : Scope) (kind : HookKind) (fixture : Handle)
    (k : HookKind) :
    (s.addFixture kind fixture).ofKind k
      = s.ofKind k ++ if kind = k then [fixture] else [] := by
  cases kind <;> cases k <;> simp [ofKind, addFixture]

/-- A fixture of a kind is a fixture of the scope. -/
private theorem Scope.mem_fixtures_of_mem_ofKind {s : Scope} {k : HookKind} {h : Handle}
    (hh : h ∈ s.ofKind k) : h ∈ s.fixtures := by
  cases k with
  | before => exact List.mem_append_left _ hh
  | after => exact List.mem_append_right _ hh

/-- The records of the fixtures of a kind that the scopes with a handle list. -/
def hooksOf (scopes : List Scope) (fixtures : Table FixtureResult) (scope : Handle)
    (kind : HookKind) : List FixtureResult :=
  (scopes.filter (·.handle = scope)).flatMap fun s => (s.ofKind kind).filterMap fixtures.get?

/-- The fixtures of a kind that a scope lists, open or written. -/
def Backend.hooks (b : Backend) (scope : Handle) (kind : HookKind) : List FixtureResult :=
  hooksOf (b.writtenScopes ++ b.scopes.map (·.2)) b.fixtures scope kind

namespace FixtureResult

/-- The fixture that ends with this outcome. -/
def finishedBy (e : HookEnding) (r : FixtureResult) : FixtureResult :=
  { r with
    status := some e.status
    stop := some e.stop
    duration := some (e.duration.getD (max 0 (e.stop - r.start)))
    details := e.details <|> r.details
    stage := .finished }

/-- The fixture that stops without an outcome. -/
def unmatched (r : FixtureResult) : FixtureResult :=
  { r.atStart with stage := .finished }

/-- A fixture that ends and is stopped at once has finished by its ending. -/
theorem stopped_ended {r : FixtureResult} (hr : r = r.atStart) (e : HookEnding) :
    (r.ended e).stopped (some e.stop) e.duration = r.finishedBy e := by
  rw [hr]
  cases hd : e.duration <;>
    simp [ended, stopped, finishedBy, atStart, stoppedDuration, stoppedStage, hd]

/-- A fixture that is stopped without an ending stays unmatched. -/
theorem stopped_none {r : FixtureResult} (hr : r = r.atStart) :
    r.stopped none none = r.unmatched := by
  rw [hr]
  rfl

end FixtureResult

/-- One more fixture at the end of what a scope lists. -/
def addHook (scope : Handle) (r : FixtureResult) (hooks : Handle → HookKind → List FixtureResult) :
    Handle → HookKind → List FixtureResult := fun x k =>
  hooks x k ++ if x = scope ∧ k = r.kind then [r] else []

/-- Another record for a fixture. -/
def changeHook (h : Handle) (f : FixtureResult → FixtureResult)
    (hooks : Handle → HookKind → List FixtureResult) : Handle → HookKind → List FixtureResult :=
  fun x k => (hooks x k).map fun r => if r.handle = h then f r else r

section hooksOf

variable {scopes : List Scope} {fixtures : Table FixtureResult} {x : Handle} {k : HookKind}

/-- Fixtures are listed scope by scope. -/
theorem hooksOf_append (scopes' : List Scope) :
    hooksOf (scopes ++ scopes') fixtures x k
      = hooksOf scopes fixtures x k ++ hooksOf scopes' fixtures x k := by
  simp only [hooksOf, List.filter_append, List.flatMap_append]

/-- The first scope lists its fixtures if it is the one that is asked for. -/
theorem hooksOf_cons (s : Scope) :
    hooksOf (s :: scopes) fixtures x k
      = (if s.handle = x then (s.ofKind k).filterMap fixtures.get? else [])
        ++ hooksOf scopes fixtures x k := by
  by_cases heq : s.handle = x <;> simp [hooksOf, heq]

/-- A scope that is not there lists nothing. -/
private theorem hooksOf_of_not_mem (hx : x ∉ scopes.map (·.handle)) :
    hooksOf scopes fixtures x k = [] := by
  have hnone : scopes.filter (·.handle = x) = [] := by
    rw [List.filter_eq_nil_iff]
    intro s hs heq
    exact hx (of_decide_eq_true heq ▸ List.mem_map_of_mem hs)
  rw [hooksOf, hnone, List.flatMap_nil]

/-- A scope with a handle of its own. -/
theorem hooksOf_of_mem (hnodup : (scopes.map (·.handle)).Nodup) {s : Scope} (hs : s ∈ scopes) :
    hooksOf scopes fixtures s.handle k = (s.ofKind k).filterMap fixtures.get? := by
  induction scopes with
  | nil => cases hs
  | cons s' rest ih =>
    rw [List.map_cons, List.nodup_cons] at hnodup
    rw [hooksOf_cons]
    rcases List.mem_cons.1 hs with rfl | hs
    · rw [if_pos rfl, hooksOf_of_not_mem hnodup.1, List.append_nil]
    · have hne : s'.handle ≠ s.handle := fun heq => hnodup.1 (heq ▸ List.mem_map_of_mem hs)
      rw [if_neg hne, ih hnodup.2 hs, List.nil_append]

/-- Children do not matter. -/
theorem hooksOf_map_addChild (test : Handle) :
    hooksOf (scopes.map (·.addChild test)) fixtures x k = hooksOf scopes fixtures x k := by
  induction scopes with
  | nil => rfl
  | cons s rest ih =>
    rw [List.map_cons, hooksOf_cons, hooksOf_cons, ih]
    cases k <;> rfl

/-- A fixture that no scope lists does not show. -/
private theorem hooksOf_insert {h : Handle} (hnew : ∀ s ∈ scopes, h ∉ s.fixtures)
    (r : FixtureResult) :
    hooksOf scopes (fixtures.insert h r) x k = hooksOf scopes fixtures x k := by
  induction scopes with
  | nil => rfl
  | cons s rest ih =>
    obtain ⟨hs, hrest⟩ := List.forall_mem_cons.1 hnew
    rw [hooksOf_cons, hooksOf_cons, ih hrest]
    congr 2
    refine List.filterMap_congr fun h' hh' => Table.get?_insert_of_ne ?_ r
    rintro rfl
    exact hs (Scope.mem_fixtures_of_mem_ofKind hh')

/-- The last scope with its handle gets a new fixture. -/
theorem hooksOf_addFixture {before rest : List Scope} {s : Scope} {h : Handle}
    (hnew : ∀ s' ∈ before ++ s :: rest, h ∉ s'.fixtures) (hlast : s.handle ∉ rest.map (·.handle))
    (r : FixtureResult) :
    hooksOf (before ++ s.addFixture r.kind h :: rest) (fixtures.insert h r) x k
      = hooksOf (before ++ s :: rest) fixtures x k
        ++ if x = s.handle ∧ k = r.kind then [r] else [] := by
  obtain ⟨hbefore, hrest⟩ := List.forall_mem_append.1 hnew
  obtain ⟨hs, hrest⟩ := List.forall_mem_cons.1 hrest
  -- no scope lists the new handle yet, so what is listed already is found as before
  have hown : (s.ofKind k).filterMap (fixtures.insert h r).get?
      = (s.ofKind k).filterMap fixtures.get? := by
    refine List.filterMap_congr fun h' hh' => Table.get?_insert_of_ne ?_ r
    rintro rfl
    exact hs (Scope.mem_fixtures_of_mem_ofKind hh')
  have hget : (fixtures.insert h r).get? h = some r := Table.get?_cons_self h r fixtures
  simp only [hooksOf_append, hooksOf_cons, hooksOf_insert hbefore, hooksOf_insert hrest,
    Standing.handle_addFixture, Scope.ofKind_addFixture, List.filterMap_append, hown]
  -- only the scope itself gets a record, and only of that kind
  by_cases hx : s.handle = x
  · subst hx
    rw [hooksOf_of_not_mem hlast]
    by_cases hkind : r.kind = k
    · simp [hkind, hget]
    · simp [hkind, Ne.symm hkind]
  · simp [hx, Ne.symm hx]

/-- The records of fixtures are found under their handles. -/
theorem get?_of_mem_hooksOf (hkeyed : ∀ e ∈ fixtures, e.2.handle = e.1) {r : FixtureResult}
    (hr : r ∈ hooksOf scopes fixtures x k) : fixtures.get? r.handle = some r := by
  obtain ⟨s, -, hr⟩ := List.mem_flatMap.1 hr
  obtain ⟨h, -, hget⟩ := List.mem_filterMap.1 hr
  rwa [hkeyed _ (Table.mem_of_get? hget)]

/-- A change of a fixture shows wherever it is listed. -/
theorem hooksOf_change (hkeyed : ∀ e ∈ fixtures, e.2.handle = e.1) (h : Handle)
    (f : FixtureResult → FixtureResult) :
    hooksOf scopes (fixtures.change h f) x k
      = (hooksOf scopes fixtures x k).map fun r => if r.handle = h then f r else r := by
  -- looking up in the changed table changes what is found
  have hget : ∀ h', (fixtures.change h f).get? h'
      = (fixtures.get? h').map fun r => if r.handle = h then f r else r := by
    intro h'
    cases hr : fixtures.get? h' with
    | none =>
      have hnot : h' ∉ fixtures.handles := fun hmem => by
        obtain ⟨r, hr'⟩ := Table.exists_get? hmem
        rw [hr] at hr'
        cases hr'
      rw [Table.get?_eq_none (by rwa [Table.handles_change]), Option.map_none]
    | some r =>
      have hhandle : r.handle = h' := hkeyed _ (Table.mem_of_get? hr)
      -- records have the handles that they are filed under
      by_cases heq : h' = h
      · subst heq
        rw [Table.get?_change_self hr, Option.map_some, if_pos hhandle]
      · rw [Table.get?_change_of_ne heq, hr, Option.map_some, if_neg (hhandle ▸ heq)]
  simp only [hooksOf, List.map_flatMap, List.map_filterMap]
  congr 1
  funext s
  exact List.filterMap_congr fun h' _ => hget h'

end hooksOf

end Chronicle
