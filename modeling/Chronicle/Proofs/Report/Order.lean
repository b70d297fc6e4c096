import Chronicle.Proofs.Replay.Nesting
import Chronicle.Proofs.Replay.Sources
import Chronicle.Proofs.Report.Step

/-!
# What holds of every report

Whatever operations a report goes through, in a directory or in memory: its tables file everything
under its own handle, no handle stands for two tests or two scopes, the children of a scope are
tests of the report, and what a test refers to has been attached. `Orderly` says so, one step keeps
it, and so do any number of steps.
-/
namespace Chronicle

namespace Table

variable {α : Type} {t : Table α} {h : Handle}

/-- What holds of all entries goes on to hold if it holds of what the changed ones become. -/
theorem forall_change {P : Handle × α → Prop} (ht : ∀ e ∈ t, P e) {f : α → α}
    (hf : ∀ a, P (h, a) → P (h, f a)) : ∀ e ∈ t.change h f, P e := by
  intro e he
  obtain ⟨e₀, he₀, rfl⟩ := List.mem_map.1 he
  by_cases heq : e₀.1 = h
  · rw [if_pos heq, heq]
    exact hf e₀.2 (heq ▸ ht e₀ he₀)
  · rw [if_neg heq]
    exact ht e₀ he₀

/-- What a change keeps of every entry, several changes keep. -/
theorem forall_foldl_change {P : Handle × α → Prop} (ht : ∀ e ∈ t, P e) (hs : List Handle)
    {f : α → α} (hf : ∀ h a, P (h, a) → P (h, f a)) :
    ∀ e ∈ hs.foldl (fun t h => t.change h f) t, P e := by
  induction hs generalizing t with
  | nil => exact ht
  | cons h rest ih => exact ih (forall_change ht (hf h))

/-- Several changes move no handle. -/
theorem handles_foldl_change (t : Table α) (hs : List Handle) (f : α → α) :
    (hs.foldl (fun t h => t.change h f) t).handles = t.handles := by
  induction hs generalizing t with
  | nil => rfl
  | cons h rest ih => rw [List.foldl_cons, ih, handles_change]

/-- What is found is in the table. -/
theorem mem_of_get? {a : α} (hget : t.get? h = some a) : (h, a) ∈ t := by
  obtain ⟨before, after, rfl, -⟩ := List.lookup_eq_some_iff.1 hget
  simp

/-- What is left was there before. -/
theorem mem_of_mem_remove {e : Handle × α} (he : e ∈ t.remove h) : e ∈ t :=
  (List.mem_filter.1 he).1

/-- Removing the entry of a handle takes the handle away. -/
theorem handles_perm_remove (hnodup : t.handles.Nodup) (hh : h ∈ t.handles) :
    t.handles.Perm (h :: (t.remove h).handles) := by
  induction t with
  | nil => cases hh
  | cons e rest ih =>
    obtain ⟨hnew, hrest⟩ := List.nodup_cons.1 hnodup
    -- the entry is the first, or is taken out further on
    by_cases heq : e.1 = h
    · obtain ⟨x, a⟩ := e
      obtain rfl : x = h := heq
      rw [remove_cons_self hnew]
      exact .refl _
    -- the entry at the front is another one
    · have hmem : h ∈ handles rest := (List.mem_cons.1 hh).resolve_left (Ne.symm heq)
      have hkeep : remove (e :: rest) h = e :: remove rest h :=
        List.filter_cons_of_pos (by simpa using heq)
      rw [hkeep]
      exact ((ih hrest hmem).cons e.1).trans (.swap _ _ _)

end Table

namespace Drawn

variable {hs hs' : List Handle} {n : Nat}

/-- Handles that are drawn are so in any order. -/
theorem perm (hd : Drawn hs n) (hperm : hs'.Perm hs) : Drawn hs' n :=
  ⟨hperm.nodup_iff.2 hd.nodup, fun h hmem => hd.isBefore h (hperm.subset hmem)⟩

/-- The next handle may be drawn. -/
theorem cons (hd : Drawn hs n) : Drawn (.drawn n :: hs) (n + 1) :=
  hd.snoc.perm (List.perm_append_singleton _ _).symm

end Drawn

namespace Backend

/-- The handles of all tests of a report. -/
def testHandles (b : Backend) : List Handle :=
  b.tests.handles ++ b.writtenTests.map (·.handle)

/-- The handles of all scopes of a report. -/
def scopeHandles (b : Backend) : List Handle :=
  b.scopes.handles ++ b.writtenScopes.map (·.handle)

/-- Everything is filed under its own handle. -/
structure Keyed (b : Backend) : Prop where
  tests : ∀ e ∈ b.tests, e.2.result.handle = e.1
  scopes : ∀ e ∈ b.scopes, e.2.handle = e.1
  fixtures : ∀ e ∈ b.fixtures, e.2.handle = e.1

variable {b b' : Backend}

/-- After a step everything is still under its own handle. -/
theorem Step.keyed (hstep : Step b b') (hk : b.Keyed) : b'.Keyed := by
  obtain ⟨htests, hscopes, hfixtures⟩ := hk
  cases hstep with
  -- what is started is under its own handle
  | startScope => exact ⟨htests, List.forall_mem_cons.2 ⟨rfl, hscopes⟩, hfixtures⟩
  | writeScope hs hsave =>
    obtain ⟨disk, saved, rfl⟩ := hsave.eq
    refine ⟨htests, ?_, hfixtures⟩
    intro e he
    exact hscopes e (Table.mem_of_mem_remove he)
  | startTest name start path =>
    exact ⟨List.forall_mem_cons.2 ⟨rfl, htests⟩,
      Table.forall_foldl_change hscopes path fun _ _ h => h, hfixtures⟩
  -- what changes keeps its handle
  | changeTest ht hop hf =>
    refine ⟨Table.forall_change htests ?_, hscopes, hfixtures⟩
    intro t h
    exact (hf.handle t).trans h
  -- a file is attached to a test that keeps its handle
  | attach ht file hsave =>
    obtain ⟨disk, saved, rfl⟩ := hsave.eq
    refine ⟨?_, hscopes, hfixtures⟩
    show ∀ e ∈ b.tests.change _ (·.attach ⟨file.name, _, file.contentType⟩),
      e.2.result.handle = e.1
    apply Table.forall_change htests
    intro t h
    exact (OpenTest.keepsHandle_attach _ t).trans h
  | writeTest ht hsave =>
    obtain ⟨disk, saved, rfl⟩ := hsave.eq
    refine ⟨?_, hscopes, hfixtures⟩
    intro e he
    exact htests e (Table.mem_of_mem_remove he)
  | startFixture hh kind name start =>
    refine ⟨htests, ?_, List.forall_mem_cons.2 ⟨rfl, hfixtures⟩⟩
    show ∀ e ∈ b.scopes.change _ (·.addFixture kind _), e.2.handle = e.1
    apply Table.forall_change hscopes
    intro s h
    exact (Standing.handle_addFixture s kind _).trans h
  | endFixture hh hf stop duration =>
    rename_i h f
    refine ⟨htests, hscopes, ?_⟩
    show ∀ e ∈ b.fixtures.change h fun r => (f r).stopped stop duration, e.2.handle = e.1
    apply Table.forall_change hfixtures
    intro r h
    obtain ⟨status, details, heq⟩ := hf r
    rw [heq]
    exact h
  | stopFixture hh stop duration =>
    refine ⟨htests, hscopes, ?_⟩
    show ∀ e ∈ b.fixtures.change _ (·.stopped stop duration), e.2.handle = e.1
    apply Table.forall_change hfixtures
    intro r h
    exact h

/-- No two tests and no two scopes have one handle. -/
structure Numbered (b : Backend) : Prop where
  tests : Drawn b.testHandles b.drawn
  scopes : Drawn b.scopeHandles b.drawn

/-- A step that closes something moves its handle, and one that opens something draws a handle. -/
theorem Step.handles (hstep : Step b b') (hk : b.Keyed) (hn : b.Numbered) :
    (b'.testHandles.Perm b.testHandles ∧ b'.scopeHandles.Perm b.scopeHandles ∧ b.drawn ≤ b'.drawn)
      ∨ (b'.testHandles = .drawn b.drawn :: b.testHandles ∧ b'.scopeHandles = b.scopeHandles
        ∧ b'.drawn = b.drawn + 1)
      ∨ b'.testHandles = b.testHandles ∧ b'.scopeHandles = .drawn b.drawn :: b.scopeHandles
        ∧ b'.drawn = b.drawn + 1 := by
  cases hstep with
  | startScope => exact .inr (.inr ⟨rfl, rfl, rfl⟩)
  | writeScope hs hsave =>
    obtain ⟨disk, saved, rfl⟩ := hsave.eq
    rename_i h s
    have hmem := Table.mem_of_get? hs
    have hhandle : s.handle = h := hk.scopes _ hmem
    -- what is written moves from the open table to the written ones
    have hperm := Table.handles_perm_remove (List.nodup_append.1 hn.scopes.nodup).1
      (List.mem_map_of_mem hmem)
    refine .inl ⟨.refl _, ?_, Nat.le_refl _⟩
    simp only [scopeHandles, List.map_append, List.map_cons, List.map_nil, hhandle]
    refine .trans ?_ (hperm.symm.append_right _)
    rw [← List.append_assoc]
    exact List.perm_append_singleton _ _
  | startTest name start path =>
    refine .inr (.inl ⟨rfl, ?_, rfl⟩)
    simp only [scopeHandles, Table.handles_foldl_change]
  -- a change leaves the handles of the table
  | changeTest ht hop hf =>
    refine .inl ⟨.of_eq ?_, .refl _, Nat.le_refl _⟩
    simp only [testHandles, Table.handles_change]
  | attach ht file hsave =>
    obtain ⟨disk, saved, rfl⟩ := hsave.eq
    refine .inl ⟨.of_eq ?_, .refl _, Nat.le_succ _⟩
    simp only [testHandles, withEntry, Table.handles_change]
  -- and so it is with a test
  | writeTest ht hsave =>
    obtain ⟨disk, saved, rfl⟩ := hsave.eq
    rename_i h t
    have hmem := Table.mem_of_get? ht
    have hhandle : t.snapshot.handle = h := t.handle_snapshot.trans (hk.tests _ hmem)
    have hperm := Table.handles_perm_remove (List.nodup_append.1 hn.tests.nodup).1
      (List.mem_map_of_mem hmem)
    refine .inl ⟨?_, .refl _, Nat.le_refl _⟩
    simp only [testHandles, List.map_append, List.map_cons, List.map_nil, hhandle]
    refine .trans ?_ (hperm.symm.append_right _)
    rw [← List.append_assoc]
    exact List.perm_append_singleton _ _
  | startFixture hh kind name start =>
    refine .inl ⟨.refl _, .of_eq ?_, Nat.le_succ _⟩
    simp only [scopeHandles, Table.handles_change]
  | endFixture hh hf stop duration => exact .inl ⟨.refl _, .refl _, Nat.le_refl _⟩
  | stopFixture hh stop duration => exact .inl ⟨.refl _, .refl _, Nat.le_refl _⟩

/-- After a step no handle stands for two tests or two scopes. -/
theorem Step.numbered (hstep : Step b b') (hk : b.Keyed) (hn : b.Numbered) : b'.Numbered := by
  rcases hstep.handles hk hn with
    ⟨htests, hscopes, hle⟩ | ⟨htests, hscopes, hdrawn⟩ | ⟨htests, hscopes, hdrawn⟩
  · exact ⟨(hn.tests.perm htests).mono hle, (hn.scopes.perm hscopes).mono hle⟩
  · refine ⟨?_, ?_⟩ <;> rw [hdrawn]
    · exact htests ▸ hn.tests.cons
    · exact hscopes ▸ hn.scopes.mono (Nat.le_succ _)
  · refine ⟨?_, ?_⟩ <;> rw [hdrawn]
    · exact htests ▸ hn.tests.mono (Nat.le_succ _)
    · exact hscopes ▸ hn.scopes.cons

/-- No test of a report is forgotten. -/
private theorem Step.testHandles_subset (hstep : Step b b') (hk : b.Keyed) (hn : b.Numbered) :
    b.testHandles ⊆ b'.testHandles := by
  rcases hstep.handles hk hn with ⟨htests, -, -⟩ | ⟨htests, -, -⟩ | ⟨htests, -, -⟩
  · exact htests.symm.subset
  · exact htests ▸ List.subset_cons_self _ _
  · exact htests ▸ List.Subset.refl _

/-- The children of scopes, open or written, are tests of the report. -/
structure Rooted (b : Backend) : Prop where
  scopes : ∀ e ∈ b.scopes, ∀ h ∈ e.2.children, h ∈ b.testHandles
  written : ∀ s ∈ b.writtenScopes, ∀ h ∈ s.children, h ∈ b.testHandles

/-- After a step the children of scopes are still tests of the report. -/
theorem Step.rooted (hstep : Step b b') (hk : b.Keyed) (hn : b.Numbered) (hr : b.Rooted) :
    b'.Rooted := by
  have hsubset := hstep.testHandles_subset hk hn
  -- no test is lost, so the children that were listed are still tests
  have hscopes : ∀ e ∈ b.scopes, ∀ h ∈ e.2.children, h ∈ b'.testHandles := by
    intro e he h hh
    exact hsubset (hr.scopes e he h hh)
  have hwritten : ∀ s ∈ b.writtenScopes, ∀ h ∈ s.children, h ∈ b'.testHandles := by
    intro s hs h hh
    exact hsubset (hr.written s hs h hh)
  cases hstep with
  | startScope => exact ⟨List.forall_mem_cons.2 ⟨nofun, hscopes⟩, hwritten⟩
  | writeScope hs hsave =>
    obtain ⟨disk, saved, rfl⟩ := hsave.eq
    constructor
    · intro e he
      exact hscopes e (Table.mem_of_mem_remove he)
    -- the scope that is written has the children it had open
    · intro s hmem
      rcases List.mem_append.1 hmem with hmem | hmem
      · exact hwritten s hmem
      · obtain rfl := List.mem_singleton.1 hmem
        exact hscopes _ (Table.mem_of_get? hs)
  | startTest name start path =>
    refine ⟨?_, hwritten⟩
    apply Table.forall_foldl_change (P := fun e : Handle × Scope => ∀ h ∈ e.2.children, h ∈ _)
      hscopes path
    -- the only new child is the test that starts
    intro _ s hchildren h hh
    rcases List.mem_append.1 hh with hh | hh
    · exact hchildren h hh
    · exact List.mem_singleton.1 hh ▸ List.mem_cons_self
  | changeTest ht hop hf => exact ⟨hscopes, hwritten⟩
  | attach ht file hsave =>
    obtain ⟨disk, saved, rfl⟩ := hsave.eq
    exact ⟨hscopes, hwritten⟩
  | writeTest ht hsave =>
    obtain ⟨disk, saved, rfl⟩ := hsave.eq
    exact ⟨hscopes, hwritten⟩
  -- a fixture is no child
  | startFixture hh kind name start =>
    refine ⟨?_, hwritten⟩
    show ∀ e ∈ b.scopes.change _ (·.addFixture kind _), ∀ h ∈ e.2.children, h ∈ b.testHandles
    apply Table.forall_change hscopes
    intro s hchildren
    cases kind <;> exact hchildren
  | endFixture hh hf stop duration => exact ⟨hscopes, hwritten⟩
  | stopFixture hh stop duration => exact ⟨hscopes, hwritten⟩

/-- What tests refer to has been attached, under sources that are all different. -/
structure Sourced (b : Backend) : Prop where
  nodup : (b.attachments.map (·.1)).Nodup
  drawn : ∀ a ∈ b.attachments, ∃ k < b.drawn, ∃ type, a.1 = sourceName (.drawn k) type
  tests : ∀ e ∈ b.tests, ∀ ref ∈ e.2.refs, ref.source ∈ b.attachments.map (·.1)
  written : ∀ r ∈ b.writtenTests, ∀ ref ∈ r.refs, ref.source ∈ b.attachments.map (·.1)

/-- A file that is attached has a source of its own, and the test refers to that. -/
private theorem sourced_of_attach {h : Handle} {file : Attachment} (hs : b.Sourced)
    (hdrawn : b'.drawn = b.drawn + 1)
    (htests : b'.tests = b.tests.change h
      (·.attach ⟨file.name, sourceName (.drawn b.drawn) file.contentType, file.contentType⟩))
    (hwritten : b'.writtenTests = b.writtenTests)
    (hattachments : b'.attachments
      = (sourceName (.drawn b.drawn) file.contentType, file.content) :: b.attachments) :
    b'.Sourced := by
  -- the handle is new, and so is the name made of it
  have hnew : sourceName (.drawn b.drawn) file.contentType ∉ b.attachments.map (·.1) := by
    intro hmem
    obtain ⟨a, ha, heq⟩ := List.mem_map.1 hmem
    obtain ⟨k, hk, type, hsource⟩ := hs.drawn a ha
    have := Chronicle.sourceName_injective (hsource.symm.trans heq)
    omega
  refine ⟨?_, ?_, ?_, ?_⟩
  · rw [hattachments]
    exact List.nodup_cons.2 ⟨hnew, hs.nodup⟩
  · rw [hattachments, hdrawn]
    refine List.forall_mem_cons.2 ⟨⟨b.drawn, Nat.lt_succ_self _, _, rfl⟩, fun a ha => ?_⟩
    obtain ⟨k, hk, hsource⟩ := hs.drawn a ha
    exact ⟨k, by omega, hsource⟩
  -- the new reference is to the new source, and the older ones are as before
  · rw [htests, hattachments]
    have hrefs : ∀ e ∈ b.tests, ∀ ref ∈ e.2.refs, ref.source
        ∈ sourceName (.drawn b.drawn) file.contentType :: b.attachments.map (·.1) := by
      intro e he ref href
      exact List.mem_cons_of_mem _ (hs.tests e he ref href)
    apply Table.forall_change hrefs
    intro t hrefs ref href
    rcases OpenTest.mem_refs_attach.1 href with rfl | href
    · exact List.mem_cons_self
    · exact hrefs ref href
  · rw [hwritten, hattachments]
    intro r hr ref href
    exact List.mem_cons_of_mem _ (hs.written r hr ref href)

/-- After a step what tests refer to has still been attached. -/
theorem Step.sourced (hstep : Step b b') (hs : b.Sourced) : b'.Sourced := by
  obtain ⟨hnodup, hdrawn, htests, hwritten⟩ := hs
  -- with one handle more, the sources are still of handles drawn before
  have hmore : ∀ a ∈ b.attachments,
      ∃ k < b.drawn + 1, ∃ type, a.1 = sourceName (.drawn k) type := by
    intro a ha
    obtain ⟨k, hk, hsource⟩ := hdrawn a ha
    exact ⟨k, by omega, hsource⟩
  cases hstep with
  | startScope => exact ⟨hnodup, hmore, htests, hwritten⟩
  | writeScope hs hsave =>
    obtain ⟨disk, saved, rfl⟩ := hsave.eq
    exact ⟨hnodup, hdrawn, htests, hwritten⟩
  | startTest name start path =>
    exact ⟨hnodup, hmore, List.forall_mem_cons.2 ⟨nofun, htests⟩, hwritten⟩
  | changeTest ht hop hf =>
    refine ⟨hnodup, hdrawn, ?_, hwritten⟩
    apply Table.forall_change
      (P := fun e : Handle × OpenTest => ∀ ref ∈ e.2.refs, ref.source ∈ b.attachments.map (·.1))
      htests
    intro t hrefs ref href
    exact hrefs ref (hf.refs t ref href)
  | attach ht file hsave =>
    obtain ⟨disk, saved, rfl⟩ := hsave.eq
    exact sourced_of_attach ⟨hnodup, hdrawn, htests, hwritten⟩ rfl rfl rfl rfl
  | writeTest ht hsave =>
    obtain ⟨disk, saved, rfl⟩ := hsave.eq
    refine ⟨hnodup, hdrawn, ?_, ?_⟩
    · intro e he
      exact htests e (Table.mem_of_mem_remove he)
    · intro r hr ref href
      rcases List.mem_append.1 hr with hr | hr
      · exact hwritten r hr ref href
      · -- the record that is written refers to what the open test referred to
        obtain rfl := List.mem_singleton.1 hr
        exact htests _ (Table.mem_of_get? ht) ref (OpenTest.mem_refs_snapshot.1 href)
  | startFixture hh kind name start => exact ⟨hnodup, hmore, htests, hwritten⟩
  | endFixture hh hf stop duration => exact ⟨hnodup, hdrawn, htests, hwritten⟩
  | stopFixture hh stop duration => exact ⟨hnodup, hdrawn, htests, hwritten⟩

/-! ### Any number of steps -/

/-- What holds of every report. -/
structure Orderly (b : Backend) : Prop where
  keyed : b.Keyed
  numbered : b.Numbered
  rooted : b.Rooted
  sourced : b.Sourced

/-- A step keeps a report orderly. -/
theorem Step.orderly (hstep : Step b b') (ho : b.Orderly) : b'.Orderly where
  keyed := hstep.keyed ho.keyed
  numbered := hstep.numbered ho.keyed ho.numbered
  rooted := hstep.rooted ho.keyed ho.numbered ho.rooted
  sourced := hstep.sourced ho.sourced

/-- So do any number of steps, by induction on them. -/
theorem Steps.orderly (hsteps : Steps b b') (ho : b.Orderly) : b'.Orderly := by
  induction hsteps with
  | refl => exact ho
  | tail _ hstep ih => exact hstep.orderly ih

/-- A report of which nothing is known yet. -/
theorem orderly_empty (destination : Destination) (disk : FileTree) :
    Orderly { destination := destination, disk := disk } where
  keyed := ⟨List.forall_mem_nil _, List.forall_mem_nil _, List.forall_mem_nil _⟩
  numbered := ⟨⟨List.nodup_nil, List.forall_mem_nil _⟩, ⟨List.nodup_nil, List.forall_mem_nil _⟩⟩
  rooted := ⟨List.forall_mem_nil _, List.forall_mem_nil _⟩
  sourced := ⟨List.nodup_nil, List.forall_mem_nil _, List.forall_mem_nil _, List.forall_mem_nil _⟩

end Backend

end Chronicle
