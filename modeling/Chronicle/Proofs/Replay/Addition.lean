import Chronicle.Proofs.Replay.Later
import Mathlib.Data.List.Basic

/-!
# What a replay adds to a report

A replay adds to a report what it makes of a fresh one, under handles that are shifted by the draws
that came before: `Backend.finished_replayed`. The tests and scopes that have been written before
are not touched. For scopes this has to do with fixtures, which they list by their handles:
`Stocked` says that what they list has been drawn, so nothing that is drawn later is shown by them.
-/
namespace Chronicle

/-! ### Fixtures -/

/-- The fixtures that a scope lists. -/
def Scope.fixtures (s : Scope) : List Handle :=
  s.befores ++ s.afters

@[simp] theorem Scope.fixtures_addChild (s : Scope) (test : Handle) :
    (s.addChild test).fixtures = s.fixtures := rfl

theorem Scope.mem_fixtures_addFixture {s : Scope} {kind : HookKind} {fixture h : Handle} :
    h ∈ (s.addFixture kind fixture).fixtures ↔ h = fixture ∨ h ∈ s.fixtures := by
  cases kind <;> simp only [fixtures, addFixture, List.mem_append, List.mem_singleton] <;> grind

/-- The fixtures of a report have handles that have been drawn, and scopes list no others. -/
structure Stocked (drawn : Nat) (fixtures : Table FixtureResult) (scopes : List Scope) : Prop where
  drawn : ∀ h ∈ fixtures.handles, h.IsBefore drawn
  listed : ∀ s ∈ scopes, ∀ h ∈ s.fixtures, h ∈ fixtures.handles

namespace Standing

variable {st st' : Standing}

/-- The scopes that have been written or are open. -/
def allScopes (st : Standing) : List Scope :=
  st.writtenScopes ++ st.scopes

/-- A move starts at most one fixture, under the next handle. Otherwise the fixtures stay the same,
and so does what scopes list. -/
theorem Move.fixtures (hm : Move st st') :
    st.drawn ≤ st'.drawn ∧ st'.fixtures.handles = st.fixtures.handles
        ∧ (∀ s' ∈ st'.allScopes, s'.fixtures = [] ∨ ∃ s ∈ st.allScopes, s'.fixtures = s.fixtures)
      ∨ st'.drawn = st.drawn + 1 ∧ st'.fixtures.handles = st.next :: st.fixtures.handles
        ∧ ∀ s' ∈ st'.allScopes, ∃ s ∈ st.allScopes,
          ∀ h ∈ s'.fixtures, h = st.next ∨ h ∈ s.fixtures := by
  -- a scope that stays has the fixtures it had
  have hsame : ∀ s' ∈ st.allScopes,
      s'.fixtures = [] ∨ ∃ s ∈ st.allScopes, s'.fixtures = s.fixtures :=
    fun s hs => .inr ⟨s, hs, rfl⟩
  cases hm with
  -- a new scope has no fixtures
  | openScope =>
    refine .inl ⟨Nat.le_succ _, rfl, fun s' hs' => ?_⟩
    rcases List.mem_append.1 hs' with hs' | hs'
    · exact hsame s' (List.mem_append_left _ hs')
    · rcases List.mem_cons.1 hs' with rfl | hs'
      · exact .inl rfl
      · exact hsame s' (List.mem_append_right _ hs')
  | closeScope =>
    cases hc : st.scopes <;> simp_all [Standing.closeScope, allScopes]
  -- the open scopes get a child
  | beginTest name start hc =>
    refine .inl ⟨Nat.le_succ _, rfl, fun s' hs' => ?_⟩
    rcases List.mem_append.1 hs' with hs' | hs'
    · exact hsame s' (List.mem_append_left _ hs')
    · obtain ⟨s, hs, rfl⟩ := List.mem_map.1 hs'
      exact .inr ⟨s, List.mem_append_right _ hs, rfl⟩
  | changeTest hop hf =>
    cases hc : st.current <;> simp_all [Standing.changeTest, allScopes]
  | attach file =>
    cases hc : st.current <;> simp_all [Standing.attach, allScopes]
  | stopTest stop duration hc hended => simp_all [Standing.stopTest, allScopes]
  | writeTest => cases hc : st.current <;> simp_all [Standing.writeTest, allScopes]
  -- the one move that adds a fixture, and it lists it in the innermost scope
  | startFixture kind name start =>
    cases hc : st.scopes with
    | nil => exact .inl (by simp_all [Standing.startFixture, allScopes])
    | cons s rest =>
      refine .inr ?_
      simp only [Standing.startFixture, hc, allScopes, Table.handles, Table.insert, List.map_cons,
        true_and]
      intro s' hs'
      rcases List.mem_append.1 hs' with hs' | hs'
      · exact ⟨s', List.mem_append_left _ hs', fun h hh => .inr hh⟩
      · rcases List.mem_cons.1 hs' with rfl | hs'
        · exact ⟨s, by simp, fun h hh => Scope.mem_fixtures_addFixture.1 hh⟩
        · exact ⟨s', by simp [hs'], fun h hh => .inr hh⟩
  | updateFixture f => cases hr : st.running <;> simp_all [Standing.updateFixture, allScopes]
  | stopFixture stop duration =>
    cases hr : st.running <;> simp_all [Standing.stopFixture, allScopes]

theorem Move.stocked (hm : Move st st') {before : List Scope}
    (hs : Stocked st.drawn st.fixtures (before ++ st.allScopes)) :
    Stocked st'.drawn st'.fixtures (before ++ st'.allScopes) := by
  have hmem : ∀ s ∈ st.allScopes, s ∈ before ++ st.allScopes := fun _ =>
    List.mem_append_right before
  -- either the table stays or one fixture comes to it
  rcases hm.fixtures with ⟨hle, hhandles, hlists⟩ | ⟨hdrawn, hhandles, hlists⟩
  · refine ⟨fun h hh => (hs.drawn h (hhandles ▸ hh)).mono hle, fun s' hs' h hh => ?_⟩
    rw [hhandles]
    rcases List.mem_append.1 hs' with hs' | hs'
    · exact hs.listed s' (List.mem_append_left _ hs') h hh
    -- the list of the scope is empty or an old one
    · rcases hlists s' hs' with hempty | ⟨s, hall, heq⟩
      · simp [hempty] at hh
      · exact hs.listed s (hmem s hall) h (heq ▸ hh)
  · rw [hdrawn]
    constructor
    · rw [hhandles]
      -- the new handle is the last one drawn
      refine List.forall_mem_cons.2 ⟨⟨st.drawn, by omega, rfl⟩, fun h hh => ?_⟩
      exact (hs.drawn h hh).mono (Nat.le_succ _)
    · intro s' hs' h hh
      rw [hhandles]
      rcases List.mem_append.1 hs' with hs' | hs'
      · exact List.mem_cons_of_mem _ (hs.listed s' (List.mem_append_left _ hs') h hh)
      · obtain ⟨s, hall, hlist⟩ := hlists s' hs'
        rcases hlist h hh with rfl | hh
        · exact List.mem_cons_self
        · exact List.mem_cons_of_mem _ (hs.listed s (hmem s hall) h hh)

theorem Moves.stocked (hm : Moves st st') {before : List Scope}
    (hs : Stocked st.drawn st.fixtures (before ++ st.allScopes)) :
    Stocked st'.drawn st'.fixtures (before ++ st'.allScopes) := by
  induction hm with
  | refl => exact hs
  | tail _ hmove ih => exact hmove.stocked ih

end Standing

/-! ### Finished reports -/

namespace Standing

variable {st : Standing} {b : Backend}

/-- The record of a scope that was written before shows only fixtures that were there before. -/
private theorem scopeResult_later (hst : Stocked st.drawn st.fixtures st.writtenScopes)
    (hb : Stocked b.drawn b.fixtures b.writtenScopes) {s : Scope} (hs : s ∈ b.writtenScopes) :
    ((st.later b.drawn b.fixtures).report b).scopeResult s = b.scopeResult s := by
  -- the handles of the earlier fixtures are not those of the later ones
  have hget : ∀ h ∈ s.fixtures,
      ((st.later b.drawn b.fixtures).report b).fixtures.get? h = b.fixtures.get? h := by
    intro h hh
    have hbefore := hb.drawn h (hb.listed s hs h hh)
    refine (Table.get?_append _ _ h).trans ?_
    rw [Table.get?_eq_none, Option.none_or]
    simp only [Table.handles, List.map_map, List.mem_map, not_exists, not_and]
    rintro e he rfl
    exact (hst.drawn e.1 (List.mem_map_of_mem he)).not_isBefore_shift b.drawn hbefore
  simp only [Backend.scopeResult]
  -- the fixtures before the tests, and those after
  congr 1 <;> refine List.filterMap_congr fun h hh => hget h ?_
  · exact List.mem_append_left _ hh
  · exact List.mem_append_right _ hh

/-- The record of a scope that is written later shows its own fixtures. -/
private theorem scopeResult_shift (hst : Stocked st.drawn st.fixtures st.writtenScopes)
    (hb : Stocked b.drawn b.fixtures b.writtenScopes) (fresh : Backend) {s : Scope}
    (hs : s ∈ st.writtenScopes) :
    ((st.later b.drawn b.fixtures).report b).scopeResult (s.shift b.drawn)
      = ((st.report fresh).scopeResult s).shift b.drawn := by
  -- a later fixture is looked up among the later ones only
  have hget : ∀ h ∈ s.fixtures,
      ((st.later b.drawn b.fixtures).report b).fixtures.get? (h.shift b.drawn)
        = (st.fixtures.get? h).map (·.shift b.drawn) := by
    intro h hh
    refine (Table.get?_append _ _ _).trans ?_
    rw [Table.get?_map (Handle.shift_injective b.drawn)]
    -- the earlier fixtures have handles below the shift
    have hnew : h.shift b.drawn ∉ b.fixtures.handles := fun hmem =>
      (hst.drawn h (hst.listed s hs h hh)).not_isBefore_shift b.drawn (hb.drawn _ hmem)
    rw [Table.get?_eq_none hnew, Option.or_none]
  simp only [Backend.scopeResult, Scope.shift, ScopeResult.shift, List.filterMap_map,
    List.map_filterMap]
  -- the fixtures before the tests, and those after
  congr 1 <;> refine List.filterMap_congr fun h hh => hget h ?_
  · exact List.mem_append_left _ hh
  · exact List.mem_append_right _ hh

/-- What a replay that begins later adds to a report is what it makes of a fresh one. -/
private theorem finished_later (hst : Stocked st.drawn st.fixtures st.writtenScopes)
    (hb : Stocked b.drawn b.fixtures b.writtenScopes) (disk : FileTree) :
    ((st.later b.drawn b.fixtures).report b).finished
      = b.finished.followedBy (st.report (.inMemory disk)).finished := by
  -- the scopes are the only results that look something up
  have hscopes : ((st.later b.drawn b.fixtures).report b).writtenScopeResults
      = b.writtenScopeResults
        ++ (st.report (.inMemory disk)).writtenScopeResults.map (·.shift b.drawn) := by
    have hwritten : ((st.later b.drawn b.fixtures).report b).writtenScopes
        = b.writtenScopes ++ st.writtenScopes.map (·.shift b.drawn) := rfl
    simp only [Backend.writtenScopeResults, hwritten, List.map_append, List.map_map]
    congr 1
    -- the earlier scopes, and then the later ones
    · exact List.map_congr_left fun s hs => scopeResult_later hst hb hs
    · exact List.map_congr_left fun s hs => scopeResult_shift hst hb _ hs
  simp only [Backend.finished, hscopes, Report.followedBy, Report.shift]
  simp [report, later, Backend.inMemory]

end Standing

namespace Backend

/-- The report after the replay of a log. -/
def replayed (isAfterAll : String → Bool) (log : List Message) (b : Backend) : Backend :=
  ((Standing.initial b).replay isAfterAll log).report b

theorem stocked_inMemory (disk : FileTree) :
    Stocked (inMemory disk).drawn (inMemory disk).fixtures (inMemory disk).writtenScopes :=
  ⟨nofun, nofun⟩

theorem stocked_replayed {b : Backend} (hb : Stocked b.drawn b.fixtures b.writtenScopes)
    (isAfterAll : String → Bool) (log : List Message) :
    Stocked (b.replayed isAfterAll log).drawn (b.replayed isAfterAll log).fixtures
      (b.replayed isAfterAll log).writtenScopes := by
  have hinitial : Stocked (Standing.initial b).drawn (Standing.initial b).fixtures
      (b.writtenScopes ++ (Standing.initial b).allScopes) :=
    ⟨hb.drawn, fun s hs => hb.listed s ((List.append_nil b.writtenScopes) ▸ hs)⟩
  have hmoves := Standing.moves_replay isAfterAll log (Standing.initial b)
  obtain ⟨hdrawn, hlisted⟩ := Standing.Moves.stocked hmoves hinitial
  refine ⟨hdrawn, fun s hs => hlisted s ?_⟩
  simp only [Standing.allScopes, ← List.append_assoc]
  exact List.mem_append_left _ hs

/-- A replay adds to a report what it makes of a fresh one. -/
theorem finished_replayed {b : Backend} (hb : Stocked b.drawn b.fixtures b.writtenScopes)
    (isAfterAll : String → Bool) (log : List Message) (disk : FileTree) :
    (b.replayed isAfterAll log).finished
      = b.finished.followedBy ((inMemory disk).replayed isAfterAll log).finished := by
  have hfresh := stocked_replayed (stocked_inMemory disk) isAfterAll log
  rw [replayed, Standing.replay_initial hb.drawn isAfterAll log disk]
  exact Standing.finished_later hfresh hb disk

end Backend

end Chronicle
