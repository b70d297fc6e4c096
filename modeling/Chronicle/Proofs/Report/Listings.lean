import Chronicle.Proofs.Report.Custody

/-!
# Fixtures and the scopes that list them

A fixture is listed in one place from the moment when it starts: by the scope that it was started
for, under the kind that it was started as. There it stays, whether the scope is open or has been
written, and whatever is recorded about the fixture is recorded there, until the fixture stops.
`Assembled.keepsListings` says this of every report in memory, whatever has been called. Tests may
be changed in any way, fixtures in any way that leaves their handles alone.

`Placed` is what each call keeps: the places of all fixtures are those in which they were started.
-/
namespace Chronicle

/-- A fixture with the scope that it has been started for and the kind that it has been started
as. -/
structure FixturePlace where
  fixture : Handle
  scope : Handle
  kind : HookKind
  deriving DecidableEq, Repr

/-- The fixture that a call has started, as the value that it returned says. -/
def Call.placed {α : Type} : Call α → α → List FixturePlace
  | .startFixture (some scope) kind _ _, some fixture => [⟨fixture, scope, kind⟩]
  | _, _ => []

/-- Only the start of a fixture has a place to tell. -/
private theorem Call.placed_eq_nil {α : Type} {c : Call α} (hop : c.operation ≠ .startFixture)
    (a : α) :
    c.placed a = [] := by
  cases c with
  | startFixture => exact absurd rfl hop
  | _ => rfl

/-- Whether a call leaves the handle of a fixture alone when it changes the record. -/
def Call.KeepsFixture {α : Type} : Call α → Prop
  | .updateFixture _ f => ∀ r, (f r).handle = r.handle
  | _ => True

/-- The places of the fixtures of a scope. -/
def Scope.places (s : Scope) : List FixturePlace :=
  (s.befores.map fun h => ⟨h, s.handle, .before⟩) ++ s.afters.map fun h => ⟨h, s.handle, .after⟩

namespace ScopeResult

/-- The places of the fixtures that the record of a scope lists. -/
def places (r : ScopeResult) : List FixturePlace :=
  (r.befores.map fun x => ⟨x.handle, r.handle, .before⟩)
    ++ r.afters.map fun x => ⟨x.handle, r.handle, .after⟩

/-- The record of a scope with another record for a fixture. -/
def changeFixture (r : ScopeResult) (h : Handle) (f : FixtureResult → FixtureResult) :
    ScopeResult :=
  { r with
    befores := r.befores.map fun x => if x.handle = h then f x else x
    afters := r.afters.map fun x => if x.handle = h then f x else x }

/-- The records of a fixture that the record of a scope lists. -/
def recordsOf (r : ScopeResult) (h : Handle) : List FixtureResult :=
  (r.befores ++ r.afters).filter (·.handle = h)

/-- Changing a fixture in a scope changes its records there, if it stays the one it was. -/
private theorem recordsOf_changeFixture {f : FixtureResult → FixtureResult}
    (hf : ∀ r, (f r).handle = r.handle) (r : ScopeResult) (h x : Handle) :
    (r.changeFixture h f).recordsOf x
      = (r.recordsOf x).map fun r => if r.handle = h then f r else r := by
  -- a change keeps the handle, so the same records are selected
  have hhandle : ∀ r : FixtureResult, (if r.handle = h then f r else r).handle = r.handle := by
    intro r
    split
    · exact hf r
    · rfl
  unfold recordsOf changeFixture
  rw [← List.map_append, List.filter_map]
  congr 1
  apply List.filter_congr
  intro y _
  simp only [Function.comp_apply, hhandle]

end ScopeResult

namespace Backend

variable {b b' : Backend} {places : List FixturePlace} {h : Handle} {α : Type} {c : Call α}

/-- All scopes, open and written. -/
def allScopes (b : Backend) : List Scope :=
  b.scopes.map (·.2) ++ b.writtenScopes

/-- The records of all scopes, open and written. -/
def scopeResults (b : Backend) : List ScopeResult :=
  b.allScopes.map b.scopeResult

/-- All records of a fixture that are listed anywhere. -/
def recordsOf (b : Backend) (h : Handle) : List FixtureResult :=
  b.scopeResults.flatMap (·.recordsOf h)

/-- The records of a fixture have its handle. -/
private theorem handle_of_mem_recordsOf {r : FixtureResult} (hr : r ∈ b.recordsOf h) :
    r.handle = h := by
  obtain ⟨s, -, hr⟩ := List.mem_flatMap.1 hr
  exact of_decide_eq_true (List.mem_filter.1 hr).2

/-- What calls in any order and with any handles can lead a new report in memory to, with the places
of the fixtures that they have started. -/
inductive Assembled : List FixturePlace → Backend → Prop
  | new (disk : FileTree) : Assembled [] (inMemory disk)
  | returned {α : Type} {c : Call α} {a : α} {places : List FixturePlace} {b b' : Backend}
      (h : Assembled places b) (hc : c.KeepsFixture) (hruns : Runs (c.run reporter) b a b') :
      Assembled (places ++ c.placed a) b'
  | failed {α : Type} {c : Call α} {e : ReportError} {places : List FixturePlace} {b b' : Backend}
      (h : Assembled places b) (hc : c.KeepsFixture) (herror : c.run reporter b = .error e b') :
      Assembled places b'

/-- What more calls can lead a report to. -/
abbrev Later : Backend → Backend → Prop :=
  Relation.ReflTransGen fun b b' =>
    ∃ (α : Type) (c : Call α), c.KeepsFixture ∧ Leaves (c.run reporter) b b'

/-! ### Places in tables -/

/-- A child of a scope is no place of a fixture. -/
private theorem places_addChild (s : Scope) (test : Handle) :
    (s.addChild test).places = s.places := rfl

/-- A fixture that is added to a scope is placed there, whatever the kind. -/
private theorem places_addFixture (s : Scope) (kind : HookKind) (fixture : Handle) :
    (s.addFixture kind fixture).places.Perm (s.places ++ [⟨fixture, s.handle, kind⟩]) := by
  cases kind with
  | before =>
    simp only [Scope.addFixture, Scope.places, List.map_append, List.map_cons, List.map_nil,
      List.append_assoc]
    exact List.perm_append_comm.append_left _
  | after =>
    simp only [Scope.addFixture, Scope.places, List.map_append, List.map_cons, List.map_nil,
      List.append_assoc]
    exact .refl _

/-- The places in the scopes of a table. -/
def placesIn (t : Table Scope) : List FixturePlace :=
  (t.map (·.2)).flatMap Scope.places

/-- The places in a table are those in its scopes. -/
private theorem placesIn_cons (e : Handle × Scope) (t : Table Scope) :
    placesIn (e :: t) = e.2.places ++ placesIn t := rfl

/-- A change that keeps the places of a scope keeps those of the table. -/
private theorem placesIn_change {f : Scope → Scope} (hf : ∀ s, (f s).places = s.places)
    (t : Table Scope) (h : Handle) : placesIn (t.change h f) = placesIn t := by
  induction t with
  | nil => rfl
  | cons e rest ih =>
    have hcons : Table.change (e :: rest) h f
        = (if e.1 = h then (e.1, f e.2) else e) :: Table.change rest h f := rfl
    rw [hcons, placesIn_cons, placesIn_cons, ih]
    split
    · rw [hf]
    · rfl

/-- A test may be made a child of many scopes without a fixture being placed. -/
private theorem placesIn_foldl_addChild (t : Table Scope) (path : List Handle) (test : Handle) :
    placesIn (path.foldl (fun open_ s => open_.change s (·.addChild test)) t) = placesIn t := by
  induction path generalizing t with
  | nil => rfl
  | cons s rest ih => rw [List.foldl_cons, ih, placesIn_change (places_addChild · test)]

/-- One scope of a table gets one fixture more. -/
private theorem placesIn_addFixture {t : Table Scope} (hnodup : t.handles.Nodup)
    (hkeyed : ∀ e ∈ t, e.2.handle = e.1) (hh : h ∈ t.handles) (kind : HookKind) (fixture : Handle) :
    (placesIn (t.change h (·.addFixture kind fixture))).Perm
      (placesIn t ++ [⟨fixture, h, kind⟩]) := by
  induction t with
  | nil => cases hh
  | cons e rest ih =>
    obtain ⟨hnew, hrest⟩ := List.nodup_cons.1 hnodup
    obtain ⟨hkey, hkeys⟩ := List.forall_mem_cons.1 hkeyed
    by_cases heq : e.1 = h
    · -- no other scope has the handle
      obtain ⟨x, s⟩ := e
      obtain rfl : x = h := heq
      obtain rfl : s.handle = x := hkey
      rw [Table.change_cons_self hnew, placesIn_cons, placesIn_cons, List.append_assoc]
      apply ((places_addFixture s kind fixture).append_right _).trans
      rw [List.append_assoc]
      exact List.perm_append_comm.append_left _
    -- the scope is further on
    · have hmem : h ∈ Table.handles rest := (List.mem_cons.1 hh).resolve_left (Ne.symm heq)
      have hcons : Table.change (e :: rest) h (·.addFixture kind fixture)
          = e :: Table.change rest h (·.addFixture kind fixture) := by
        simp only [Table.change, List.map_cons, if_neg heq]
      rw [hcons, placesIn_cons, placesIn_cons, List.append_assoc]
      exact (ih hrest hkeys hmem).append_left _

/-- The places of a scope leave a table with it. -/
private theorem placesIn_remove {t : Table Scope} (hnodup : t.handles.Nodup) {s : Scope}
    (hs : t.get? h = some s) : (placesIn t).Perm (placesIn (t.remove h) ++ s.places) := by
  induction t with
  | nil => cases hs
  | cons e rest ih =>
    obtain ⟨hnew, hrest⟩ := List.nodup_cons.1 hnodup
    obtain ⟨x, s'⟩ := e
    -- the scope that is taken out is the first, or is further on
    by_cases heq : x = h
    · subst heq
      obtain rfl : s' = s := by
        rw [Table.get?_cons_self] at hs
        exact Option.some.inj hs
      rw [Table.remove_cons_self hnew, placesIn_cons]
      exact List.perm_append_comm
    · have hkeep : Table.remove ((x, s') :: rest) h = (x, s') :: Table.remove rest h :=
        List.filter_cons_of_pos (by simpa using heq)
      have hget : Table.get? rest h = some s := by
        have hne : (h == x) = false := by simpa using Ne.symm heq
        simpa only [Table.get?, List.lookup_cons, hne] using hs
      rw [hkeep, placesIn_cons, placesIn_cons, List.append_assoc]
      exact (ih hrest hget).append_left _

/-! ### What calls keep -/

/-- The places of all fixtures are those in which they have been started, and the records of all
fixtures are there. -/
structure Placed (places : List FixturePlace) (b : Backend) : Prop where
  memory : b.destination = .memory
  isBefore : ∀ call ∈ b.calls, call.2.IsBefore b.drawn
  tests : ∀ h ∈ b.tests.handles, h.IsBefore b.drawn
  scopes : Ledger .startScope .writeScope b.calls b.scopes.handles (b.writtenScopes.map (·.handle))
  running : ∃ stopped, Ledger .startFixture .stopFixture b.calls b.running stopped
  keyedScopes : ∀ e ∈ b.scopes, e.2.handle = e.1
  fixtures : b.fixtures.handles = (calledWith .startFixture b.calls).reverse
  keyedFixtures : ∀ e ∈ b.fixtures, e.2.handle = e.1
  started : places.map (·.fixture) = calledWith .startFixture b.calls
  listed : (b.allScopes.flatMap Scope.places).Perm places

/-- A call of another operation is not among those of an operation. -/
private theorem calledWith_snoc_of_ne {op op' : Operation} (hop : op' ≠ op)
    (calls : List (Operation × Handle)) (h : Handle) :
    calledWith op (calls ++ [(op', h)]) = calledWith op calls := by
  rw [calledWith_snoc, if_neg hop, List.append_nil]

namespace Placed

/-- A new report lists nothing. -/
theorem new (disk : FileTree) : Placed [] (inMemory disk) where
  -- there is nothing in a new report
  memory := rfl
  isBefore := List.forall_mem_nil _
  tests := List.forall_mem_nil _
  scopes := .nil _ _
  running := ⟨[], .nil _ _⟩
  keyedScopes := List.forall_mem_nil _
  fixtures := rfl
  keyedFixtures := List.forall_mem_nil _
  started := rfl
  listed := .nil

/-- The next handle has not been called. -/
theorem drawn_new (hb : Placed places b) : ∀ call ∈ b.calls, call.2 ≠ .drawn b.drawn :=
  fun call hcall => (hb.isBefore call hcall).ne_drawn

/-- One more call on a handle that has been drawn leaves all calls on such handles. -/
theorem isBefore_snoc (hb : Placed places b) {n : Nat} (hn : b.drawn ≤ n) {op : Operation}
    (hh : h.IsBefore n) : ∀ call ∈ b.calls ++ [(op, h)], call.2.IsBefore n := by
  rw [List.forall_mem_append, List.forall_mem_singleton]
  exact ⟨fun call hcall => (hb.isBefore call hcall).mono hn, hh⟩

/-- Scopes are distinct, open and written ones together. -/
theorem nodup_scopes (hb : Placed places b) : (b.allScopes.map (·.handle)).Nodup := by
  have hhandles : b.scopes.map (fun e => e.2.handle) = b.scopes.handles :=
    List.map_congr_left hb.keyedScopes
  rw [allScopes, List.map_append, List.map_map]
  show (b.scopes.map (fun e => e.2.handle) ++ _).Nodup
  rw [hhandles]
  exact hb.scopes.perm.nodup_iff.2 hb.scopes.nodup

/-- So are the open ones. -/
private theorem nodup_handles (hb : Placed places b) : b.scopes.handles.Nodup :=
  (List.nodup_append.1 (hb.scopes.perm.nodup_iff.2 hb.scopes.nodup)).1

/-- The places in all scopes are those in the open ones and those in the written ones. -/
private theorem flatMap_places (b : Backend) :
    b.allScopes.flatMap Scope.places
      = placesIn b.scopes ++ b.writtenScopes.flatMap Scope.places := by
  rw [allScopes, List.flatMap_append]
  rfl

/-- A call that neither starts nor closes anything but tests keeps the places. -/
theorem of_other {op : Operation} (hb : Placed places b) (hmemory : b'.destination = .memory)
    (hdrawn : b.drawn ≤ b'.drawn) (hcalls : b'.calls = b.calls ++ [(op, h)])
    (hh : h.IsBefore b'.drawn) (htests : ∀ h ∈ b'.tests.handles, h.IsBefore b'.drawn)
    (hop : op ≠ .startScope ∧ op ≠ .writeScope ∧ op ≠ .startFixture ∧ op ≠ .stopFixture)
    (hscopes : b'.scopes.handles = b.scopes.handles ∧ b'.writtenScopes = b.writtenScopes)
    (hkeyed : ∀ e ∈ b'.scopes, e.2.handle = e.1) (hplaces : placesIn b'.scopes = placesIn b.scopes)
    (hrunning : b'.running = b.running) (hfixtures : b'.fixtures.handles = b.fixtures.handles)
    (hkeyedFixtures : ∀ e ∈ b'.fixtures, e.2.handle = e.1) : Placed places b' where
  memory := hmemory
  isBefore := hcalls ▸ hb.isBefore_snoc hdrawn hh
  tests := htests
  -- the call is on no scope and no fixture, so either ledger goes on
  scopes := by
    rw [hcalls, hscopes.1, hscopes.2]
    exact hb.scopes.snoc_other hop.1 hop.2.1 h
  running := by
    obtain ⟨stopped, hl⟩ := hb.running
    rw [hcalls, hrunning]
    exact ⟨stopped, hl.snoc_other hop.2.2.1 hop.2.2.2 h⟩
  keyedScopes := hkeyed
  fixtures := by rw [hcalls, hfixtures, hb.fixtures, calledWith_snoc_of_ne hop.2.2.1]
  keyedFixtures := hkeyedFixtures
  started := by rw [hcalls, hb.started, calledWith_snoc_of_ne hop.2.2.1]
  listed := by
    rw [flatMap_places, hplaces, hscopes.2, ← flatMap_places]
    exact hb.listed

/-! Each call keeps the places: one lemma for each operation that is not about tests alone. -/

/-- A new scope lists nothing. -/
private theorem startScope (hb : Placed places b) :
    Placed places { b with
      drawn := b.drawn + 1
      scopes := b.scopes.insert (.drawn b.drawn) ⟨.drawn b.drawn, [], [], []⟩
      calls := b.calls ++ [(.startScope, .drawn b.drawn)] } := by
  obtain ⟨stopped, hl⟩ := hb.running
  exact
    { memory := hb.memory
      isBefore := hb.isBefore_snoc (Nat.le_succ _) (Kept.isBefore_drawn _)
      tests := fun x hx => (hb.tests x hx).mono (Nat.le_succ _)
      -- the new scope is open and lists nothing
      scopes := hb.scopes.snoc_open (by decide) hb.drawn_new
      running := ⟨stopped, hl.snoc_other (by decide) (by decide) _⟩
      keyedScopes := List.forall_mem_cons.2 ⟨rfl, hb.keyedScopes⟩
      fixtures := by rw [hb.fixtures, calledWith_snoc_of_ne (by decide)]
      keyedFixtures := hb.keyedFixtures
      started := by rw [hb.started, calledWith_snoc_of_ne (by decide)]
      listed := hb.listed }

/-- A scope takes its places along to the scopes that have been written. -/
private theorem listed_writeScope (hb : Placed places b) {s : Scope}
    (hs : b.scopes.get? h = some s) :
    (placesIn (b.scopes.remove h) ++ (b.writtenScopes ++ [s]).flatMap Scope.places).Perm
      places := by
  have hlisted := hb.listed
  rw [flatMap_places] at hlisted
  rw [List.flatMap_append, List.flatMap_singleton]
  apply (List.perm_append_comm.append_left _).trans
  rw [← List.append_assoc]
  exact ((placesIn_remove hb.nodup_handles hs).symm.append_right _).trans hlisted

/-- A scope that is written takes its places along. -/
private theorem writeScope (hb : Placed places b) {s : Scope} (hs : b.scopes.get? h = some s) :
    Placed places { b with
      scopes := b.scopes.remove h
      writtenScopes := b.writtenScopes ++ [s]
      calls := b.calls ++ [(.writeScope, h)] } := by
  obtain ⟨stopped, hl⟩ := hb.running
  have hopen : h ∈ b.scopes.handles := mem_handles_of_get? hs
  have hhandle : s.handle = h := hb.keyedScopes _ (Table.mem_of_get? hs)
  -- the scope is written under the handle that it was open with
  have hledger := hb.scopes.snoc_close (by decide) hopen
  exact
    { memory := hb.memory
      isBefore :=
        hb.isBefore_snoc (Nat.le_refl _) (hb.isBefore _ (hb.scopes.mem_open_iff.1 hopen).1)
      tests := hb.tests
      scopes := by
        simpa only [Table.handles_remove, List.map_append, List.map_singleton, hhandle]
          using hledger
      running := ⟨stopped, hl.snoc_other (by decide) (by decide) _⟩
      keyedScopes := fun e he => hb.keyedScopes e (Table.mem_of_mem_remove he)
      fixtures := by rw [hb.fixtures, calledWith_snoc_of_ne (by decide)]
      keyedFixtures := hb.keyedFixtures
      started := by rw [hb.started, calledWith_snoc_of_ne (by decide)]
      listed := by
        rw [flatMap_places]
        exact hb.listed_writeScope hs }

/-- A test that starts becomes a child of scopes, and nothing else about them changes. -/
private theorem startTest (hb : Placed places b) (name : String) (start : Int)
    (path : List Handle) :
    Placed places { b with
      drawn := b.drawn + 1
      tests := b.tests.insert (.drawn b.drawn)
        ⟨{ handle := .drawn b.drawn, name := name, start := start }, []⟩
      scopes := path.foldl (fun open_ s => open_.change s (·.addChild (.drawn b.drawn))) b.scopes
      calls := b.calls ++ [(.startTest, .drawn b.drawn)] } := by
  have htests : ∀ x ∈ .drawn b.drawn :: b.tests.handles, x.IsBefore (b.drawn + 1) :=
    List.forall_mem_cons.2
      ⟨Kept.isBefore_drawn _, fun x hx => (hb.tests x hx).mono (Nat.le_succ _)⟩
  exact hb.of_other hb.memory (Nat.le_succ _) rfl (Kept.isBefore_drawn _) htests (by decide)
    ⟨Table.handles_foldl_change _ _ _, rfl⟩
    (Table.forall_foldl_change hb.keyedScopes path fun _ _ hs => hs)
    (placesIn_foldl_addChild _ _ _) rfl rfl hb.keyedFixtures

/-- A change of a test leaves scopes and fixtures alone. -/
private theorem changeTest (hb : Placed places b) {op : Operation}
    (hop : op ≠ .startScope ∧ op ≠ .writeScope ∧ op ≠ .startFixture ∧ op ≠ .stopFixture)
    (hh : h ∈ b.tests.handles) (f : OpenTest → OpenTest) {n : Nat} (hn : b.drawn ≤ n)
    (attachments : List (String × Bytes)) :
    Placed places { b with
      drawn := n
      tests := b.tests.change h f
      attachments := attachments
      calls := b.calls ++ [(op, h)] } := by
  have htests : ∀ x ∈ (b.tests.change h f).handles, x.IsBefore n := by
    rw [Table.handles_change]
    exact fun x hx => (hb.tests x hx).mono hn
  exact hb.of_other hb.memory hn rfl ((hb.tests h hh).mono hn) htests hop ⟨rfl, rfl⟩
    hb.keyedScopes rfl rfl rfl hb.keyedFixtures

/-- So does a test that is written. -/
private theorem writeTest (hb : Placed places b) (hh : h ∈ b.tests.handles) (r : TestResult) :
    Placed places { b with
      tests := b.tests.remove h
      writtenTests := b.writtenTests ++ [r]
      calls := b.calls ++ [(.writeTest, h)] } := by
  have htests : ∀ x ∈ (b.tests.remove h).handles, x.IsBefore b.drawn := by
    rw [Table.handles_remove]
    exact fun x hx => hb.tests x (List.mem_filter.1 hx).1
  exact hb.of_other hb.memory (Nat.le_refl _) rfl (hb.tests h hh) htests (by decide) ⟨rfl, rfl⟩
    hb.keyedScopes rfl rfl rfl hb.keyedFixtures

/-- What is started is at one place more: in the scope that it is started for. -/
private theorem startFixture (hb : Placed places b) (hh : h ∈ b.scopes.handles) (kind : HookKind)
    (name : String) (start : Int) :
    Placed (places ++ [⟨.drawn b.drawn, h, kind⟩]) { b with
      drawn := b.drawn + 1
      scopes := b.scopes.change h (·.addFixture kind (.drawn b.drawn))
      fixtures := b.fixtures.insert (.drawn b.drawn)
        { handle := .drawn b.drawn, name := name, kind := kind, start := start }
      running := .drawn b.drawn :: b.running
      calls := b.calls ++ [(.startFixture, .drawn b.drawn)] } := by
  obtain ⟨stopped, hl⟩ := hb.running
  have hop : Operation.startFixture ≠ .startScope ∧ Operation.startFixture ≠ .writeScope := by
    decide
  have hledger := hb.scopes.snoc_other hop.1 hop.2 (.drawn b.drawn)
  -- the one new place is in the scope that the fixture starts in
  have hadd := placesIn_addFixture hb.nodup_handles hb.keyedScopes hh kind (.drawn b.drawn)
  exact
    { memory := hb.memory
      isBefore := hb.isBefore_snoc (Nat.le_succ _) (Kept.isBefore_drawn _)
      tests := fun x hx => (hb.tests x hx).mono (Nat.le_succ _)
      scopes := by simpa only [Table.handles_change] using hledger
      running := ⟨stopped, hl.snoc_open (by decide) hb.drawn_new⟩
      keyedScopes := Table.forall_change hb.keyedScopes fun s hs =>
        (Standing.handle_addFixture s _ _).trans hs
      fixtures := by
        rw [calledWith_snoc, if_pos rfl, List.reverse_append, ← hb.fixtures]
        rfl
      keyedFixtures := List.forall_mem_cons.2 ⟨rfl, hb.keyedFixtures⟩
      started := by
        rw [calledWith_snoc, if_pos rfl, List.map_append, hb.started]
        rfl
      listed := by
        have hlisted := hb.listed
        rw [flatMap_places] at hlisted ⊢
        exact (hadd.append_right _).trans (perm_append_middle hlisted _) }

/-- A fixture that is changed stays where it is listed, as long as it keeps its handle. -/
private theorem updateFixture (hb : Placed places b) (hh : h ∈ b.running)
    {f : FixtureResult → FixtureResult} (hf : ∀ r, (f r).handle = r.handle) :
    Placed places { b with
      fixtures := b.fixtures.change h f
      calls := b.calls ++ [(.updateFixture, h)] } := by
  obtain ⟨stopped, hl⟩ := hb.running
  exact hb.of_other hb.memory (Nat.le_refl _) rfl (hb.isBefore _ (hl.mem_open_iff.1 hh).1)
    hb.tests (by decide) ⟨rfl, rfl⟩ hb.keyedScopes rfl rfl (Table.handles_change _ _ _)
    (Table.forall_change hb.keyedFixtures fun r hr => (hf r).trans hr)

/-- A fixture that stops stays where it is listed. -/
private theorem stopFixture (hb : Placed places b) (hh : h ∈ b.running)
    (stop duration : Option Int) :
    Placed places { b with
      running := b.running.filter (· != h)
      fixtures := b.fixtures.change h (·.stopped stop duration)
      calls := b.calls ++ [(.stopFixture, h)] } := by
  obtain ⟨stopped, hl⟩ := hb.running
  -- a fixture that stops is still listed, only no longer running
  have hfilter : b.running.filter (· != h) = b.running.filter (· ≠ h) := by
    simp only [bne, beq_eq_decide, ne_eq, decide_not]
  have hhandles : (b.fixtures.change h (·.stopped stop duration)).handles = b.fixtures.handles :=
    Table.handles_change _ _ _
  exact
    { memory := hb.memory
      isBefore := hb.isBefore_snoc (Nat.le_refl _) (hb.isBefore _ (hl.mem_open_iff.1 hh).1)
      tests := hb.tests
      scopes := hb.scopes.snoc_other (by decide) (by decide) _
      -- the stop closes what the start has opened
      running := ⟨_, hfilter ▸ hl.snoc_close (by decide) hh⟩
      keyedScopes := hb.keyedScopes
      fixtures := by rw [hhandles, hb.fixtures, calledWith_snoc_of_ne (by decide)]
      keyedFixtures := Table.forall_change hb.keyedFixtures
        (f := (·.stopped stop duration)) fun _ hr => hr
      started := by rw [hb.started, calledWith_snoc_of_ne (by decide)]
      listed := hb.listed }

/-- A call that starts no fixture adds no place. -/
private theorem of_placed_eq_nil {a : α} (hop : c.operation ≠ .startFixture)
    (hb : Placed places b) : Placed (places ++ c.placed a) b := by
  rwa [Call.placed_eq_nil hop, List.append_nil]

end Placed

/-- What a call starts is at one place more. -/
theorem Deed.placed {a : α} (hd : Deed b c b') (hruns : Runs (c.run reporter) b a b')
    (hc : c.KeepsFixture) (hb : Placed places b) : Placed (places ++ c.placed a) b' := by
  cases hd with
  | startScope => exact hb.startScope.of_placed_eq_nil (by rintro ⟨⟩)
  | writeScope hs => exact (hb.writeScope hs).of_placed_eq_nil (by rintro ⟨⟩)
  | startTest name start path =>
    exact (hb.startTest name start path).of_placed_eq_nil (by rintro ⟨⟩)
  -- a change of a test is no call on scopes or fixtures
  | @changeTest c h t htarget hop ht f hf n hn attachments =>
    have hother : c.operation ≠ .startScope ∧ c.operation ≠ .writeScope
        ∧ c.operation ≠ .startFixture ∧ c.operation ≠ .stopFixture := by
      rcases hop with hop | hop | hop <;> simp [hop]
    exact (hb.changeTest hother (mem_handles_of_get? ht) _ hn attachments).of_placed_eq_nil
      hother.2.2.1
  | writeTest ht => exact (hb.writeTest (mem_handles_of_get? ht) _).of_placed_eq_nil (by rintro ⟨⟩)
  | @declined scope hscope kind name start =>
    -- a fixture that is declined has no place
    obtain ⟨rfl, -⟩ := hruns.unique (runs_startFixture_of_closed hscope kind name start)
    have hnone : (Call.startFixture scope kind name start).placed none = [] := by
      cases scope <;> rfl
    rw [hnone, List.append_nil]
    exact hb
  | @startFixture h hh kind name start =>
    obtain ⟨s, hs⟩ := Table.exists_get? hh
    have hhas : b.scopes.has h = true := by rw [Table.has, hs, Option.isSome_some]
    -- what the call returns is the handle that was drawn
    obtain ⟨rfl, -⟩ := hruns.unique (runs_startFixture hhas kind name start)
    exact hb.startFixture hh kind name start
  | updateFixture hh f => exact (hb.updateFixture hh hc).of_placed_eq_nil (by rintro ⟨⟩)
  | stopFixture hh stop duration =>
    exact (hb.stopFixture hh stop duration).of_placed_eq_nil (by rintro ⟨⟩)

/-- What calls have made of a report has its places, by induction on the calls. -/
private theorem Assembled.hasPlaces (hb : Assembled places b) : Placed places b := by
  induction hb with
  | new disk => exact .new disk
  | @returned _ c a places b b' _ hc hruns ih =>
    rcases refused_or_deed ih.memory c with ⟨kind, h, -, -, herror⟩ | ⟨a', b₁, hruns', hdeed⟩
    · exact nomatch herror.symm.trans hruns
    · obtain ⟨-, rfl⟩ := hruns.unique hruns'
      exact hdeed.placed hruns hc ih
  | @failed _ c e places b b' _ hc herror ih =>
    rcases refused_or_deed ih.memory c with ⟨kind, h, -, -, herror'⟩ | ⟨a', b₁, hruns, -⟩
    -- a call that fails was refused, and has changed nothing
    · cases herror.symm.trans herror'
      exact ih
    · exact nomatch hruns.symm.trans herror

/-! ### Records -/

section Table

variable {t : Table FixtureResult}

/-- The records of one fixture among those of several. -/
private theorem filter_filterMap_get? (hkeyed : ∀ e ∈ t, e.2.handle = e.1) (h : Handle)
    (hs : List Handle) :
    (hs.filterMap t.get?).filter (·.handle = h) = (hs.filter (· = h)).filterMap t.get? := by
  induction hs with
  | nil => rfl
  | cons x rest ih =>
    cases hget : t.get? x with
    | none =>
      -- records have the handle that they are looked up with
      by_cases heq : x = h
      · subst heq
        simp [hget, ih]
      · simp [heq, hget, ih]
    | some r =>
      -- the record found has the handle looked up
      have hhandle : r.handle = x := hkeyed _ (Table.mem_of_get? hget)
      by_cases heq : x = h
      · subst heq
        simp [hget, hhandle, ih]
      · simp [heq, hget, hhandle, ih]

/-- Records under their own handles. -/
private theorem map_filterMap_get? {β : Type} (hkeyed : ∀ e ∈ t, e.2.handle = e.1) (g : Handle → β)
    {hs : List Handle} (hall : ∀ h ∈ hs, h ∈ t.handles) :
    (hs.filterMap t.get?).map (fun r => g r.handle) = hs.map g := by
  induction hs with
  | nil => rfl
  | cons h rest ih =>
    obtain ⟨hh, hrest⟩ := List.forall_mem_cons.1 hall
    obtain ⟨r, hr⟩ := Table.exists_get? hh
    have hhandle : r.handle = h := hkeyed _ (Table.mem_of_get? hr)
    rw [List.filterMap_cons, hr, List.map_cons, List.map_cons, ih hrest, hhandle]

/-- A change of one fixture among several. -/
private theorem filterMap_get?_change (hkeyed : ∀ e ∈ t, e.2.handle = e.1) (h : Handle)
    (f : FixtureResult → FixtureResult) (hs : List Handle) :
    hs.filterMap (t.change h f).get?
      = (hs.filterMap t.get?).map fun r => if r.handle = h then f r else r := by
  rw [List.map_filterMap]
  apply List.filterMap_congr
  intro x _
  rw [Table.get?_change]
  cases hget : t.get? x with
  | none => rfl
  | some r =>
    have hhandle : r.handle = x := hkeyed _ (Table.mem_of_get? hget)
    simp only [Option.map_some, hhandle]

end Table

/-- A change of a fixture shows in what is reported of a scope. -/
private theorem scopeResult_change {f : FixtureResult → FixtureResult}
    (hkeyed : ∀ e ∈ b.fixtures, e.2.handle = e.1) (h : Handle)
    (hfixtures : b'.fixtures = b.fixtures.change h f) (s : Scope) :
    b'.scopeResult s = (b.scopeResult s).changeFixture h f := by
  unfold scopeResult ScopeResult.changeFixture
  rw [hfixtures]
  simp only [filterMap_get?_change hkeyed]

namespace Placed

/-- The fixtures of scopes are among those that have been started. -/
theorem mem_fixtures (hb : Placed places b) {s : Scope} (hs : s ∈ b.allScopes)
    (hh : h ∈ s.fixtures) : h ∈ b.fixtures.handles := by
  have hplace : ∃ p ∈ s.places, p.fixture = h := by
    rcases List.mem_append.1 hh with hh | hh
    · exact ⟨_, List.mem_append_left _ (List.mem_map_of_mem hh), rfl⟩
    · exact ⟨_, List.mem_append_right _ (List.mem_map_of_mem hh), rfl⟩
  obtain ⟨p, hp, rfl⟩ := hplace
  have hlisted := hb.listed.subset (List.mem_flatMap.2 ⟨s, hs, hp⟩)
  rw [hb.fixtures, List.mem_reverse, ← hb.started]
  exact List.mem_map_of_mem hlisted

/-- What is reported of a scope has the fixtures at the places where the scope lists them. -/
private theorem places_scopeResult (hb : Placed places b) {s : Scope} (hs : s ∈ b.allScopes) :
    (b.scopeResult s).places = s.places := by
  have hbefores : ∀ h ∈ s.befores, h ∈ b.fixtures.handles := fun h hh =>
    hb.mem_fixtures hs (List.mem_append_left _ hh)
  have hafters : ∀ h ∈ s.afters, h ∈ b.fixtures.handles := fun h hh =>
    hb.mem_fixtures hs (List.mem_append_right _ hh)
  unfold ScopeResult.places Scope.places scopeResult
  exact congrArg₂ (· ++ ·)
    (map_filterMap_get? hb.keyedFixtures (FixturePlace.mk · s.handle .before) hbefores)
    (map_filterMap_get? hb.keyedFixtures (FixturePlace.mk · s.handle .after) hafters)

/-- What is reported lists each fixture at the place where it was started. -/
private theorem listed_scopeResults (hb : Placed places b) :
    (b.scopeResults.flatMap ScopeResult.places).Perm places := by
  rw [scopeResults, List.flatMap_map, List.flatMap_congr fun s hs => hb.places_scopeResult hs]
  exact hb.listed

/-- A fixture that has been started has one record, which is listed once. -/
private theorem recordsOf_eq (hb : Placed places b) (hh : h ∈ places.map (·.fixture)) :
    b.recordsOf h = (b.fixtures.get? h).toList := by
  obtain ⟨stopped, hl⟩ := hb.running
  -- what the scopes list are the fixtures of the places
  have hfixtures : (b.allScopes.flatMap Scope.fixtures).Perm (places.map (·.fixture)) := by
    have hmap := hb.listed.map (·.fixture)
    rw [List.map_flatMap] at hmap
    have heach : ∀ s : Scope, s.places.map (·.fixture) = s.fixtures := by
      intro s
      simp [Scope.places, Scope.fixtures, Function.comp_def]
    simpa only [heach] using hmap
  have hnodup : (places.map (·.fixture)).Nodup := hb.started ▸ hl.nodup
  -- among all listings, the fixture is there once
  have hone : (b.allScopes.flatMap Scope.fixtures).filter (· = h) = [h] := by
    have hcount : (b.allScopes.flatMap Scope.fixtures).count h = 1 :=
      (hfixtures.count_eq h).trans (List.count_eq_one_of_mem hnodup hh)
    rw [List.filter_eq, hcount]
    rfl
  -- selecting records by handle is looking up that one handle
  have hrecords : b.recordsOf h
      = ((b.allScopes.flatMap Scope.fixtures).filter (· = h)).filterMap b.fixtures.get? := by
    rw [recordsOf, scopeResults, List.flatMap_map, List.filter_flatMap, List.filterMap_flatMap]
    apply List.flatMap_congr
    intro s _
    rw [← filter_filterMap_get? hb.keyedFixtures]
    unfold ScopeResult.recordsOf scopeResult Scope.fixtures
    rw [List.filterMap_append]
  rw [hrecords, hone]
  cases hget : b.fixtures.get? h <;> simp [hget]

end Placed

/-! ### Fixtures that have been stopped -/

/-- What a call does takes back no call. -/
private theorem Deed.calls_prefix (hd : Deed b c b') : b.calls <+: b'.calls := by
  cases hd with
  | declined => exact List.prefix_rfl
  | _ => exact List.prefix_append _ _

/-- No call changes the record of a fixture that has been stopped. -/
private theorem Later.get?_fixtures (hl : Later b b') (hb : Placed places b)
    (hstop : (.stopFixture, h) ∈ b.calls) :
    (∃ more, Placed (places ++ more) b') ∧ (.stopFixture, h) ∈ b'.calls
      ∧ b'.fixtures.get? h = b.fixtures.get? h := by
  induction hl with
  | refl => exact ⟨⟨[], (List.append_nil places).symm ▸ hb⟩, hstop, rfl⟩
  | @tail b₁ b₂ _ hcall ih =>
    obtain ⟨⟨more, hb₁⟩, hstop₁, hsame⟩ := ih
    obtain ⟨α, c, hc, hleaves⟩ := hcall
    rcases refused_or_deed hb₁.memory c with ⟨kind, x, -, -, herror⟩ | ⟨a, b₃, hruns, hdeed⟩
    · -- a call that is refused leaves the report as it was
      obtain ⟨a, hok⟩ | ⟨e, hfail⟩ := hleaves
      · exact nomatch herror.symm.trans hok
      · cases herror.symm.trans hfail
        exact ⟨⟨more, hb₁⟩, hstop₁, hsame⟩
    · obtain ⟨a', hok⟩ | ⟨e, hfail⟩ := hleaves
      · obtain ⟨-, rfl⟩ := hruns.unique hok
        have hplaced := hdeed.placed hruns hc hb₁
        rw [List.append_assoc] at hplaced
        have hnew : h ≠ .drawn b₁.drawn := (hb₁.isBefore _ hstop₁).ne_drawn
        -- a call about the fixture would need it to be open
        have hother : c.target? ≠ some (.fixture, h) := by
          intro htarget
          obtain ⟨stopped, hledger⟩ := hb₁.running
          exact (hledger.mem_open_iff.1 (hdeed.opened htarget).1).2 hstop₁
        exact ⟨⟨_, hplaced⟩, hdeed.calls_prefix.subset hstop₁,
          (hdeed.frame.fixtures h hnew hother).trans hsame⟩
      · exact nomatch hruns.symm.trans hfail

/-! ### What is true of all listings -/

/-- The record of a fixture is replaced where it is listed, in an open scope or in one that has been
written, and nothing else is. -/
structure Rewrites (h : Handle) (f : FixtureResult → FixtureResult) (b b' : Backend) : Prop where
  record : b'.recordsOf h = (b.recordsOf h).map f
  openScopes : b'.scopes.map (fun e => b'.scopeResult e.2)
    = b.scopes.map fun e => (b.scopeResult e.2).changeFixture h f
  writtenScopes : b'.writtenScopeResults = b.writtenScopeResults.map (·.changeFixture h f)
  others : ∀ x, x ≠ h → b'.recordsOf x = b.recordsOf x
  rest : b' = { b with fixtures := b'.fixtures, running := b'.running, calls := b'.calls }

/-- What is true of the fixtures of a report in memory and of the places in which they were
started. -/
structure KeepsListings (places : List FixturePlace) (b : Backend) : Prop where
  /-- These are the fixtures that have been started, and all are different. -/
  started : places.map (·.fixture) = calledWith .startFixture b.calls
    ∧ (calledWith .startFixture b.calls).Nodup
  /-- What scopes list are these fixtures, each in its place. -/
  listed : (b.scopeResults.flatMap (·.places)).Perm places
  /-- All scopes are different, open or written. -/
  scopes : (b.scopeResults.map (·.handle)).Nodup
  /-- Every fixture has one record, which is listed once. -/
  record : ∀ p ∈ places, ∃ r, b.recordsOf p.fixture = [r]
  /-- A fixture that is open can be updated, which changes its record and no other one. -/
  update : ∀ h f, b.IsOpen .fixture h → (∀ r, (f r).handle = r.handle) →
    ∃ b', Runs (updateFixture h f) b () b' ∧ Rewrites h f b b' ∧ b'.running = b.running
  /-- A fixture that is open can be stopped, which changes its record and no other one. -/
  stop : ∀ h stop duration, b.IsOpen .fixture h →
    ∃ b', Runs (stopFixture h stop duration) b () b' ∧ Rewrites h (·.stopped stop duration) b b'
      ∧ ∀ x, x ∈ b'.running ↔ x ∈ b.running ∧ x ≠ h
  /-- No call changes the record of a fixture that has been stopped. -/
  stopped : ∀ h, (.stopFixture, h) ∈ b.calls → ∀ b', Later b b' → b'.recordsOf h = b.recordsOf h

/-- A change in the table of fixtures is a change of one record, wherever it is listed. -/
private theorem Placed.rewrites (hb : Placed places b) {f : FixtureResult → FixtureResult}
    (hf : ∀ r, (f r).handle = r.handle) (hfixtures : b'.fixtures = b.fixtures.change h f)
    (hrest : b' = { b with fixtures := b'.fixtures, running := b'.running, calls := b'.calls }) :
    Rewrites h f b b' := by
  -- a scope shows its fixtures as the table has them
  have hscope : ∀ s, b'.scopeResult s = (b.scopeResult s).changeFixture h f :=
    scopeResult_change hb.keyedFixtures h hfixtures
  have hscopes : b'.scopes = b.scopes ∧ b'.writtenScopes = b.writtenScopes := by
    rw [hrest]
    exact ⟨rfl, rfl⟩
  -- the change reaches the fixture through its handle, and only that fixture
  have hrecords : ∀ x, b'.recordsOf x
      = (b.recordsOf x).map fun r => if r.handle = h then f r else r := by
    intro x
    unfold recordsOf scopeResults allScopes
    rw [hscopes.1, hscopes.2, List.flatMap_map, List.flatMap_map, List.map_flatMap]
    simp only [hscope, ScopeResult.recordsOf_changeFixture hf]
  exact
    { record := by
        rw [hrecords]
        apply List.map_congr_left
        intro r hr
        rw [if_pos (handle_of_mem_recordsOf hr)]
      openScopes := by simp only [hscopes.1, hscope]
      writtenScopes := by
        unfold writtenScopeResults
        rw [hscopes.2, List.map_map]
        exact List.map_congr_left fun s _ => hscope s
      others := by
        intro x hx
        rw [hrecords]
        -- a record under another handle stays as it is
        conv_rhs => rw [← List.map_id (b.recordsOf x)]
        apply List.map_congr_left
        intro r hr
        rw [if_neg (handle_of_mem_recordsOf hr ▸ hx)]
        rfl
      rest := hrest }

/-- Whatever is called in whatever order: a fixture is listed once, in the place that it was started
in, and its record there is the one that calls change, until the fixture is stopped. -/
theorem Assembled.keepsListings (hb : Assembled places b) : KeepsListings places b := by
  have hplaced := hb.hasPlaces
  obtain ⟨stopped, hl⟩ := hplaced.running
  -- a result has the handle of its scope
  have hscopeHandles : b.scopeResults.map (·.handle) = b.allScopes.map (·.handle) := by
    rw [scopeResults, List.map_map]
    rfl
  exact
    { started := ⟨hplaced.started, hl.nodup⟩
      listed := hplaced.listed_scopeResults
      scopes := hscopeHandles ▸ hplaced.nodup_scopes
      record := by
        intro p hp
        -- a fixture at a place has been started, and so has a record
        have hmem := List.mem_map_of_mem (f := FixturePlace.fixture) hp
        have hstarted : p.fixture ∈ b.fixtures.handles := by
          rw [hplaced.fixtures, List.mem_reverse, ← hplaced.started]
          exact hmem
        obtain ⟨r, hr⟩ := Table.exists_get? hstarted
        exact ⟨r, by rw [hplaced.recordsOf_eq hmem, hr, Option.toList_some]⟩
      update := by
        intro h f hopen hf
        have hrunning : h ∈ b.running := hl.mem_open_iff.2 hopen
        exact ⟨_, runs_updateFixture hrunning f, hplaced.rewrites hf rfl rfl, rfl⟩
      stop := by
        intro h stop duration hopen
        have hrunning : h ∈ b.running := hl.mem_open_iff.2 hopen
        refine ⟨_, runs_stopFixture hrunning stop duration,
          hplaced.rewrites (fun _ => rfl) rfl rfl, fun x => ?_⟩
        simp
      stopped := by
        intro h hstop b' hlater
        have hstarted : h ∈ places.map (·.fixture) := by
          rw [hplaced.started]
          apply hl.subset
          rw [hl.closed, mem_calledWith_iff]
          exact hstop
        -- after its stop no call changes the fixture, whatever else is started
        obtain ⟨⟨more, hplaced'⟩, -, hsame⟩ := hlater.get?_fixtures hplaced hstop
        have hstarted' : h ∈ (places ++ more).map (·.fixture) := by
          rw [List.map_append]
          exact List.mem_append_left _ hstarted
        rw [hplaced'.recordsOf_eq hstarted', hplaced.recordsOf_eq hstarted, hsame] }

/-- A fixture that is started as a set-up fixture, and turned into a tear-down one after its scope
has been written: it stays where it is, and once it has stopped it is what it is. -/
theorem Assembled.keepsListings_of_written_scope :
    ∃ b, Assembled [⟨.drawn 1, .drawn 0, .before⟩] b
      ∧ b.calls = [(.startScope, .drawn 0), (.startFixture, .drawn 1), (.writeScope, .drawn 0),
        (.updateFixture, .drawn 1), (.stopFixture, .drawn 1)]
      ∧ b.scopeResults = [⟨.drawn 0, [], [⟨.drawn 1, "a", .after, 3, some 7, some 4, none, none,
        .finished⟩], []⟩]
      ∧ ∀ b', Later b b' → b'.recordsOf (.drawn 1) = b.recordsOf (.drawn 1) := by
  have hscope : Assembled [] _ := .returned (c := .startScope) (.new {}) trivial (runs_startScope _)
  have hfixture := hscope.returned (c := .startFixture (some (.drawn 0)) .before "a" 3) trivial
    (runs_startFixture (by decide +kernel) .before "a" 3)
  have hwritten := hfixture.returned (c := .writeScope (.drawn 0)) trivial
    (runs_writeScope (s := ⟨.drawn 0, [], [.drawn 1], []⟩) rfl (by decide +kernel))
  -- the scope has been written, and the fixture still changes
  have hupdated := hwritten.returned (c := .updateFixture (.drawn 1) ({ · with kind := .after }))
    (fun _ => rfl) (runs_updateFixture (List.mem_singleton_self _) _)
  have hstopped := hupdated.returned (c := .stopFixture (.drawn 1) (some 7) none) trivial
    (runs_stopFixture (List.mem_singleton_self _) (some 7) none)
  refine ⟨_, hstopped, rfl, ?_, ?_⟩
  · decide +kernel
  · exact hstopped.keepsListings.stopped (.drawn 1) (by decide +kernel)

end Backend

end Chronicle
