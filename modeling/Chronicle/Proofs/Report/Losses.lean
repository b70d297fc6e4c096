import Chronicle.Proofs.Report.Custody
import Chronicle.Proofs.Report.Step

/-!
# Nodes whose files cannot be saved

A report in a results directory closes a node before it saves the node's file. When the file cannot
be saved, the node is not open any more and it has not been written either: it is lost, and the same
call is refused from then on, also once nothing is in the way of the file. `Reported.accounted` says
this of every report in a results directory, whatever has been called, whatever has failed and
whatever has become of the files in between; it also says that nothing else is ever lost.

The open nodes of such a report are those of a report in memory that has had the lost nodes written
too. `Held` keeps that report beside it, so all that is known of reports in memory can be used.
-/
namespace Chronicle

/-- The nodes that a failed call loses: one whose file it could not save. -/
def Call.lostBy {α : Type} : Call α → ReportError → List (NodeKind × Handle)
  | .writeScope h, .notWritten _ => [(.scope, h)]
  | .writeTest h, .notWritten _ => [(.test, h)]
  | _, _ => []

namespace Backend

/-- The handles of the nodes of a kind. -/
def handlesAs (kind : NodeKind) (nodes : List (NodeKind × Handle)) : List Handle :=
  nodes.filterMap fun node => if node.1 = kind then some node.2 else none

variable {root : Path} {lost nodes : List (NodeKind × Handle)} {b b' : Backend} {kind : NodeKind}
  {h : Handle} {α : Type} {c : Call α}

/-- The handles of a kind among two lists of nodes. -/
private theorem handlesAs_append (kind : NodeKind) (nodes nodes' : List (NodeKind × Handle)) :
    handlesAs kind (nodes ++ nodes') = handlesAs kind nodes ++ handlesAs kind nodes' :=
  List.filterMap_append

/-- A handle is among those of its kind. -/
private theorem mem_handlesAs_iff : h ∈ handlesAs kind nodes ↔ (kind, h) ∈ nodes := by
  simp [handlesAs]

/-! ### Files that cannot be saved -/

/-- A file that is in the way of another keeps it from being saved, and nothing has changed. -/
private theorem save_eq_error {name : String} {content : Bytes} {o : Obstacle}
    (hd : b.destination = .directory root)
    (hwrite : b.disk.write (root.child name).steps content = .error o) :
    save name content b = .error (.notWritten (root.child name)) b := by
  rw [save, (Runs.get b).bind_eq]
  simp only [hd, hwrite]
  rfl

/-- No file can be written where a directory is. -/
private theorem write_eq_error_of_directory {disk : FileTree} {steps : List String}
    (hstatus : disk.status steps = .ok .directory) (content : Bytes) :
    disk.write steps content = .error .directory := by
  simp only [FileTree.write, FileTree.edit, hstatus]

/-- Saving a file changes nothing but the disk, and nothing at all if it fails. -/
private theorem save_cases (name : String) (content : Bytes) (b : Backend) :
    (∃ disk saved, Runs (save name content) b () { b with disk := disk, saved := saved })
      ∨ ∃ path, save name content b = .error (.notWritten path) b := by
  obtain hd | ⟨root, hd⟩ : b.destination = .memory ∨ ∃ root, b.destination = .directory root := by
    cases b.destination <;> simp
  · exact .inl ⟨b.disk, b.saved, runs_save hd name content⟩
  · cases hwrite : b.disk.write (root.child name).steps content with
    | ok disk => exact .inl ⟨_, _, (Saves.directory hd hwrite).runs⟩
    | error o => exact .inr ⟨_, save_eq_error hd hwrite⟩

/-- A test that is open is written by saving its file, after it has been closed. -/
private theorem writeTest_eq {t : OpenTest} (ht : b.tests.get? h = some t) :
    writeTest h b = (do
      save (h.name ++ "-result.json") (Rendering.testJson t.snapshot).octets
      modify fun b => { b with writtenTests := b.writtenTests ++ [t.snapshot] } : Reporting Unit)
      { b with tests := b.tests.remove h, calls := b.calls ++ [(.writeTest, h)] } := by
  rw [writeTest, (runs_openTest ht).bind_eq]
  rfl

/-- A scope is taken out before its file is saved, and written only after that. -/
private theorem writeScope_eq {s : Scope} (hs : b.scopes.get? h = some s) :
    writeScope h b = (do
      save (h.name ++ "-container.json") (Rendering.scopeJson (b.scopeResult s)).octets
      modify fun b => { b with writtenScopes := b.writtenScopes ++ [s] } : Reporting Unit)
      { b with scopes := b.scopes.remove h, calls := b.calls ++ [(.writeScope, h)] } := by
  rw [writeScope, (runs_openScope hs).bind_eq]
  rfl

/-- What entries for a test can change, whether all of them are applied or not. -/
def Entered (h : Handle) (b b' : Backend) : Prop :=
  ∃ n f attachments disk saved, b.drawn ≤ n ∧ OpenTest.KeepsHandle f ∧ b' = { b with
    drawn := n
    tests := b.tests.change h f
    attachments := attachments
    disk := disk
    saved := saved }

/-- Saving a source is part of applying an entry. -/
private theorem entered_save (h : Handle) (b : Backend) (disk : FileTree)
    (saved : List (String × Bytes)) :
    Entered h b { b with disk := disk, saved := saved } := by
  have hid : b.tests.change h id = b.tests := by simp [Table.change]
  exact ⟨b.drawn, id, b.attachments, disk, saved, Nat.le_refl _, fun _ => rfl, by rw [hid]⟩

/-- Nothing has been applied yet. -/
theorem Entered.refl (h : Handle) (b : Backend) : Entered h b b :=
  entered_save h b b.disk b.saved

/-- What is applied further is applied. -/
theorem Entered.trans {b₁ b₂ : Backend} (h₁ : Entered h b b₁) (h₂ : Entered h b₁ b₂) :
    Entered h b b₂ := by
  obtain ⟨n₁, f₁, attachments₁, disk₁, saved₁, hn₁, hf₁, rfl⟩ := h₁
  obtain ⟨n₂, f₂, attachments₂, disk₂, saved₂, hn₂, hf₂, rfl⟩ := h₂
  refine ⟨n₂, fun t => f₂ (f₁ t), attachments₂, disk₂, saved₂, Nat.le_trans hn₁ hn₂, ?_, ?_⟩
  · exact fun t => (hf₂ (f₁ t)).trans (hf₁ t)
  · simp only [Table.change_change]

/-- An entry is applied, or else it is an attachment that could not be saved. -/
private theorem applyEntry_cases (h : Handle) (e : TestEntry) (b : Backend) :
    (∃ b', Runs (applyEntry h e) b () b' ∧ Entered h b b')
      ∨ ∃ path b', applyEntry h e b = .error (.notWritten path) b' ∧ Entered h b b' := by
  -- without the saving an entry is one change of its test
  have hentered : Entered h b (b.withEntry h e) := by
    obtain ⟨n, f, attachments, hn, hf, heq⟩ := exists_withEntry h e b
    exact ⟨n, f, attachments, b.disk, b.saved, hn, hf, heq⟩
  cases e with
  | attachment file =>
    have hact : applyEntry h (.attachment file) b
        = save (sourceName (.drawn b.drawn) file.contentType) file.content
          (b.withEntry h (.attachment file)) := rfl
    -- an attachment is in the test by the time its source is saved, any other entry saves nothing
    rcases save_cases (sourceName (.drawn b.drawn) file.contentType) file.content
      (b.withEntry h (.attachment file)) with ⟨disk, saved, hruns⟩ | ⟨path, herror⟩
    · exact .inl ⟨_, hact.trans hruns, hentered.trans (entered_save h _ disk saved)⟩
    · exact .inr ⟨path, _, hact.trans herror, hentered⟩
  | _ => exact .inl ⟨_, rfl, hentered⟩

/-- Entries are applied up to the first one that cannot be. -/
private theorem applyEntries_cases (h : Handle) (entries : List TestEntry) (b : Backend) :
    (∃ b', Runs (entries.forM (applyEntry h)) b () b' ∧ Entered h b b')
      ∨ ∃ path b', entries.forM (applyEntry h) b = .error (.notWritten path) b'
        ∧ Entered h b b' := by
  induction entries generalizing b with
  | nil => exact .inl ⟨b, .pure () b, .refl h b⟩
  | cons e rest ih =>
    rcases applyEntry_cases h e b with ⟨b₁, hruns, hentered⟩ | ⟨path, b₁, herror, hentered⟩
    · rcases ih b₁ with ⟨b₂, hrest, hentered'⟩ | ⟨path, b₂, herror, hentered'⟩
      · exact .inl ⟨b₂, hruns.bind hrest, hentered.trans hentered'⟩
      · exact .inr ⟨path, b₂, (hruns.bind_eq _).trans herror, hentered.trans hentered'⟩
    · exact .inr ⟨path, b₁, error_of_bind herror _, hentered⟩

/-! ### Calls, with a report in memory beside them -/

/-- The report in memory with the same open nodes, which may have written others. -/
def beside (b : Backend) (tests : List TestResult) (scopes : List Scope) : Backend :=
  { b.forget with writtenTests := tests, writtenScopes := scopes }

/-- A call does in memory what it does here, and writes what it is about. -/
structure Does (b : Backend) (c : Call α) (b' : Backend) : Prop where
  destination : b'.destination = b.destination
  deed : ∀ tests scopes, Deed (b.beside tests scopes) c
    (b'.beside (tests ++ c.testsWritten b) (scopes ++ c.scopesWritten b))

/-- A deed that writes nothing is done in a directory as beside it in memory. -/
private theorem Does.of_deed (hdestination : b'.destination = b.destination)
    (hop : c.operation ≠ .writeTest ∧ c.operation ≠ .writeScope)
    (hdeed : ∀ tests scopes, Deed (b.beside tests scopes) c (b'.beside tests scopes)) :
    Does b c b' where
  destination := hdestination
  deed tests scopes := by
    rw [testsWritten_eq_nil hop.1, scopesWritten_eq_nil hop.2, List.append_nil, List.append_nil]
    exact hdeed tests scopes

/-- A call on something that is not open is refused wherever the report goes. -/
private theorem run_eq_error_of_closed (hc : c.target? = some (kind, h))
    (hh : h ∉ b.openHandles kind) :
    c.run reporter b = .error (.unknownHandle kind h) b := by
  have hscope : ∀ x, x ∉ b.openHandles .scope →
      openScope x b = .error (.unknownHandle .scope x) b :=
    fun x hx => openScope_eq_error (Table.get?_eq_none hx)
  have htest : ∀ x, x ∉ b.openHandles .test → openTest x b = .error (.unknownHandle .test x) b :=
    fun x hx => openTest_eq_error (Table.get?_eq_none hx)
  -- every operation looks its target up before it does anything
  cases c with
  | startScope | startTest | startFixture => cases hc
  | writeScope =>
    cases hc
    exact error_of_bind (hscope h hh) _
  | updateTest | stopTest | writeTest | applyMessages =>
    cases hc
    exact error_of_bind (htest h hh) _
  | updateFixture | stopFixture =>
    cases hc
    exact error_of_bind (requireRunning_eq_error hh) _

/-- What a call leaves behind that could not save a file. Nothing has been written, whether the call
has closed a node or has applied some entries. -/
inductive Breaks (b : Backend) : {α : Type} → Call α → Backend → Prop
  | write {α : Type} {c : Call α} {b' : Backend} (hdoes : Does b c b')
      (hop : c.operation = .writeTest ∨ c.operation = .writeScope)
      (htests : b'.writtenTests = b.writtenTests) (hscopes : b'.writtenScopes = b.writtenScopes) :
      Breaks b c b'
  | apply {h : Handle} {b' : Backend} (hentered : Entered h b b') (entries : List TestEntry) :
      Breaks b (.applyMessages h entries) b'

/-- How a call ends that is not refused: it does what it does in memory, or it could not save a
file. -/
def Ends (b : Backend) (c : Call α) : Prop :=
  (∃ a b', Runs (c.run reporter) b a b' ∧ Does b c b'
      ∧ b'.writtenTests = b.writtenTests ++ c.testsWritten b
      ∧ b'.writtenScopes = b.writtenScopes ++ c.scopesWritten b)
    ∨ ∃ path b', c.run reporter b = .error (.notWritten path) b' ∧ Breaks b c b'

/-- Most calls do the same wherever the report goes. -/
private theorem Ends.of_deed {a : α} (hruns : Runs (c.run reporter) b a b')
    (hdestination : b'.destination = b.destination) (htests : b'.writtenTests = b.writtenTests)
    (hscopes : b'.writtenScopes = b.writtenScopes)
    (hop : c.operation ≠ .writeTest ∧ c.operation ≠ .writeScope)
    (hdeed : ∀ tests scopes, Deed (b.beside tests scopes) c (b'.beside tests scopes)) :
    Ends b c := by
  refine .inl ⟨a, b', hruns, .of_deed hdestination hop hdeed, ?_, ?_⟩
  · rw [htests, testsWritten_eq_nil hop.1, List.append_nil]
  · rw [hscopes, scopesWritten_eq_nil hop.2, List.append_nil]

/-- A scope that is open is written, or lost. -/
private theorem ends_writeScope (hh : h ∈ b.scopes.handles) : Ends b (.writeScope h) := by
  obtain ⟨s, hs⟩ := Table.exists_get? hh
  have hwritten : (Call.writeScope h).scopesWritten b = [s] := by simp [Call.scopesWritten, hs]
  -- beside what has been lost, the call is one that goes through
  have hdeed : ∀ tests scopes, Deed (b.beside tests scopes) (.writeScope h)
      (beside { b with scopes := b.scopes.remove h, calls := b.calls ++ [(.writeScope, h)] }
        (tests ++ []) (scopes ++ [s])) := by
    intro tests scopes
    rw [List.append_nil]
    exact .writeScope (b := b.beside tests scopes) hs
  -- the scope is closed, whatever becomes of its file
  rcases save_cases (h.name ++ "-container.json") (Rendering.scopeJson (b.scopeResult s)).octets
    { b with scopes := b.scopes.remove h, calls := b.calls ++ [(.writeScope, h)] } with
    ⟨disk, saved, hruns⟩ | ⟨path, herror⟩
  -- the file is saved, and the scope counted as written
  · left
    refine ⟨(), _, (writeScope_eq hs).trans (hruns.bind (.change _ _)), ⟨rfl, ?_⟩, ?_, ?_⟩
    · rw [hwritten]
      exact hdeed
    · exact (List.append_nil _).symm
    · rw [hwritten]
  -- the file is not saved, and the scope is written beside only
  · right
    refine ⟨path, _, (writeScope_eq hs).trans (error_of_bind herror _), ?_⟩
    refine .write ⟨rfl, ?_⟩ (.inr rfl) rfl rfl
    rw [hwritten]
    exact hdeed

/-- A test that is open is written, or lost. -/
private theorem ends_writeTest (hh : h ∈ b.tests.handles) : Ends b (.writeTest h) := by
  obtain ⟨t, ht⟩ := Table.exists_get? hh
  have hwritten : (Call.writeTest h).testsWritten b = [t.snapshot] := by
    simp [Call.testsWritten, ht]
  -- beside what has been lost, the call is one that goes through
  have hdeed : ∀ tests scopes, Deed (b.beside tests scopes) (.writeTest h)
      (beside { b with tests := b.tests.remove h, calls := b.calls ++ [(.writeTest, h)] }
        (tests ++ [t.snapshot]) (scopes ++ [])) := by
    intro tests scopes
    rw [List.append_nil]
    exact .writeTest (b := b.beside tests scopes) ht
  -- the test has been taken out in either case, only its file decides
  rcases save_cases (h.name ++ "-result.json") (Rendering.testJson t.snapshot).octets
    { b with tests := b.tests.remove h, calls := b.calls ++ [(.writeTest, h)] } with
    ⟨disk, saved, hruns⟩ | ⟨path, herror⟩
  · left
    refine ⟨(), _, (writeTest_eq ht).trans (hruns.bind (.change _ _)), ⟨rfl, ?_⟩, ?_, ?_⟩
    · rw [hwritten]
      exact hdeed
    · rw [hwritten]
    · exact (List.append_nil _).symm
  · right
    refine ⟨path, _, (writeTest_eq ht).trans (error_of_bind herror _), ?_⟩
    refine .write ⟨rfl, ?_⟩ (.inl rfl) rfl rfl
    rw [hwritten]
    exact hdeed

/-- Entries are applied, or break off at an attachment. -/
private theorem ends_applyMessages (hh : h ∈ b.tests.handles) (entries : List TestEntry) :
    Ends b (.applyMessages h entries) := by
  obtain ⟨t, ht⟩ := Table.exists_get? hh
  rcases applyEntries_cases h entries b with ⟨b₁, hall, hentered⟩ | ⟨path, b₁, herror, hentered⟩
  -- all entries have been applied, which is one change of the test
  · obtain ⟨n, f, attachments, disk, saved, hn, hf, rfl⟩ := hentered
    have hruns : Runs (applyMessages h entries) b () _ :=
      (runs_openTest ht).bind (hall.bind (.change _ _))
    exact .of_deed hruns rfl rfl rfl (by simp [Call.operation]) fun tests scopes =>
      .changeTest (b := b.beside tests scopes) rfl (.inr (.inr rfl)) ht (fun _ => hf) hn attachments
  -- a source could not be saved, and the entries before it stay
  · right
    refine ⟨path, b₁, ?_, .apply hentered entries⟩
    exact ((runs_openTest ht).bind_eq _).trans (error_of_bind herror _)

/-- How a call ends. -/
private theorem refused_or_ends (b : Backend) (c : Call α) :
    (∃ kind h, c.run reporter b = .error (.unknownHandle kind h) b) ∨ Ends b c := by
  by_cases hopen : ∀ kind h, c.target? = some (kind, h) → h ∈ b.openHandles kind
  swap
  -- a target that is not open is refused
  · simp only [not_forall] at hopen
    obtain ⟨kind, h, hc, hh⟩ := hopen
    exact .inl ⟨kind, h, run_eq_error_of_closed hc hh⟩
  right
  -- the target is open, so each operation does what it does
  cases c with
  | startScope =>
    exact .of_deed (runs_startScope b) rfl rfl rfl (by decide) fun _ _ => .startScope
  | startTest name start path =>
    exact .of_deed (runs_startTest b name start path) rfl rfl rfl (by simp [Call.operation])
      fun _ _ => .startTest name start path
  | updateTest h f =>
    obtain ⟨t, ht⟩ := Table.exists_get? (hopen .test h rfl)
    have hf : (Call.updateTest h f).KeepsHandle → OpenTest.KeepsHandle (·.update f) :=
      OpenTest.keepsHandle_update
    exact .of_deed (runs_updateTest ht f) rfl rfl rfl (by simp [Call.operation])
      fun tests scopes => .changeTest (b := b.beside tests scopes) rfl (.inl rfl) ht hf
        (Nat.le_refl _) b.attachments
  | stopTest h stop duration =>
    obtain ⟨t, ht⟩ := Table.exists_get? (hopen .test h rfl)
    have hf : OpenTest.KeepsHandle (·.update (·.stopped stop duration)) :=
      OpenTest.keepsHandle_update fun _ => rfl
    exact .of_deed (runs_stopTest ht stop duration) rfl rfl rfl (by simp [Call.operation])
      fun tests scopes => .changeTest (b := b.beside tests scopes) rfl (.inr (.inl rfl)) ht
        (fun _ => hf) (Nat.le_refl _) b.attachments
  | updateFixture h f =>
    have hh : h ∈ b.running := hopen .fixture h rfl
    exact .of_deed (runs_updateFixture hh f) rfl rfl rfl (by simp [Call.operation])
      fun tests scopes => .updateFixture (b := b.beside tests scopes) hh f
  | stopFixture h stop duration =>
    have hh : h ∈ b.running := hopen .fixture h rfl
    exact .of_deed (runs_stopFixture hh stop duration) rfl rfl rfl (by simp [Call.operation])
      fun tests scopes => .stopFixture (b := b.beside tests scopes) hh stop duration
  | startFixture scope kind name start =>
    by_cases hscope : ∃ h, scope = some h ∧ h ∈ b.scopes.handles
    · obtain ⟨h, rfl, hh⟩ := hscope
      obtain ⟨s, hs⟩ := Table.exists_get? hh
      have hhas : b.scopes.has h = true := by simp [Table.has, hs]
      exact .of_deed (runs_startFixture hhas kind name start) rfl rfl rfl
        (by simp [Call.operation])
        fun tests scopes => .startFixture (b := b.beside tests scopes) hh kind name start
    -- with no open scope the fixture is declined
    · have hclosed : ∀ h, scope = some h → h ∉ b.scopes.handles := by simpa using hscope
      exact .of_deed (runs_startFixture_of_closed hclosed kind name start) rfl rfl rfl
        (by simp [Call.operation])
        fun tests scopes => .declined (b := b.beside tests scopes) hclosed kind name start
  | writeScope h => exact ends_writeScope (hopen .scope h rfl)
  | writeTest h => exact ends_writeTest (hopen .test h rfl)
  | applyMessages h entries => exact ends_applyMessages (hopen .test h rfl) entries

/-! ### What has become of what was started -/

/-- What calls in any order and with any handles can lead a new report in a results directory to,
and what has been lost on the way. In between, anything can happen to the files. -/
inductive Reported (root : Path) : List (NodeKind × Handle) → Backend → Prop
  | new {disk : FileTree} {b : Backend} (hnew : inDirectory disk root = .ok b) : Reported root [] b
  | files {lost : List (NodeKind × Handle)} {b : Backend} (h : Reported root lost b)
      (disk : FileTree) : Reported root lost { b with disk := disk }
  | environment {lost : List (NodeKind × Handle)} {b b' : Backend} (h : Reported root lost b)
      (info : List (String × String)) (hleaves : Leaves (writeEnvironment info) b b') :
      Reported root lost b'
  | returned {α : Type} {c : Call α} {a : α} {lost : List (NodeKind × Handle)} {b b' : Backend}
      (h : Reported root lost b) (hc : c.KeepsHandle) (hruns : Runs (c.run reporter) b a b') :
      Reported root lost b'
  | failed {α : Type} {c : Call α} {e : ReportError} {lost : List (NodeKind × Handle)}
      {b b' : Backend} (h : Reported root lost b) (hc : c.KeepsHandle)
      (herror : c.run reporter b = .error e b') : Reported root (lost ++ c.lostBy e) b'

/-- Some report in memory has the same open nodes, and it has written all that is written or lost
here. -/
structure Held (root : Path) (lost : List (NodeKind × Handle)) (b : Backend) : Prop where
  destination : b.destination = .directory root
  fixtures : handlesAs .fixture lost = []
  kept : ∃ tests scopes, (b.beside tests scopes).Kept
    ∧ (b.writtenTests.map (·.handle) ++ handlesAs .test lost).Perm (tests.map (·.handle))
    ∧ (b.writtenScopes.map (·.handle) ++ handlesAs .scope lost).Perm (scopes.map (·.handle))

/-- Entries for a test open nothing and close nothing. -/
private theorem Kept.of_entered {tests : List TestResult} {scopes : List Scope}
    (hk : (b.beside tests scopes).Kept) (h' : Entered h b b') : (b'.beside tests scopes).Kept := by
  -- entries that have been applied in part change the test as a whole one would
  obtain ⟨n, f, attachments, disk, saved, hn, hf, rfl⟩ := h'
  exact
    { memory := rfl
      isBefore := fun call hcall => (hk.isBefore call hcall).mono hn
      scopes := hk.scopes
      tests := by
        show Ledger _ _ _ (b.tests.change h f).handles _
        rw [Table.handles_change]
        exact hk.tests
      fixtures := hk.fixtures
      keyedScopes := hk.keyedScopes
      keyedTests := Table.forall_change hk.keyedTests fun t ht => (hf t).trans ht }

namespace Held

/-- A new report has lost nothing. -/
theorem new {disk : FileTree} (hnew : inDirectory disk root = .ok b) : Held root [] b := by
  unfold inDirectory at hnew
  split at hnew
  · cases hnew
    exact ⟨rfl, rfl, [], [], .new {}, .nil, .nil⟩
  · cases hnew

/-- Files have no part in this. -/
private theorem withFiles (hb : Held root lost b) (disk : FileTree)
    (saved : List (String × Bytes)) :
    Held root lost { b with disk := disk, saved := saved } :=
  ⟨hb.destination, hb.fixtures, hb.kept⟩

/-- A call that succeeds writes what it would write in memory. -/
private theorem of_does (hb : Held root lost b) (hc : c.KeepsHandle) (hdoes : Does b c b')
    (htests : b'.writtenTests = b.writtenTests ++ c.testsWritten b)
    (hscopes : b'.writtenScopes = b.writtenScopes ++ c.scopesWritten b) : Held root lost b' := by
  obtain ⟨tests, scopes, hk, ht, hs⟩ := hb.kept
  refine ⟨hdoes.destination.trans hb.destination, hb.fixtures, _, _,
    (hdoes.deed tests scopes).kept hc hk, ?_, ?_⟩
  · rw [htests, List.map_append, List.map_append]
    exact perm_append_middle ht _
  · rw [hscopes, List.map_append, List.map_append]
    exact perm_append_middle hs _

/-- A call that closes a node and does not write it loses just that node. -/
private theorem handlesAs_lostBy {tests : List TestResult} {scopes : List Scope}
    (hk : (b.beside tests scopes).Kept) (hdoes : Does b c b')
    (hop : c.operation = .writeTest ∨ c.operation = .writeScope) (path : Path) :
    handlesAs .test (c.lostBy (.notWritten path)) = (c.testsWritten b).map (·.handle)
      ∧ handlesAs .scope (c.lostBy (.notWritten path)) = (c.scopesWritten b).map (·.handle) := by
  -- the target has been open
  have hopened : ∀ kind h, c.target? = some (kind, h) →
      h ∈ (b.beside tests scopes).openHandles kind :=
    fun kind h hc => ((hdoes.deed tests scopes).opened hc).1
  cases c with
  | writeTest h =>
    obtain ⟨t, ht⟩ := Table.exists_get? (hopened .test h rfl)
    -- what is lost is what would have been written
    have hhandle : t.snapshot.handle = h :=
      t.handle_snapshot.trans (hk.keyedTests _ (Table.mem_of_get? ht))
    have hget : b.tests.get? h = some t := ht
    simp [handlesAs, Call.lostBy, Call.testsWritten, Call.scopesWritten, hget, hhandle]
  | writeScope h =>
    obtain ⟨s, hs⟩ := Table.exists_get? (hopened .scope h rfl)
    have hhandle : s.handle = h := hk.keyedScopes _ (Table.mem_of_get? hs)
    have hget : b.scopes.get? h = some s := hs
    simp [handlesAs, Call.lostBy, Call.testsWritten, Call.scopesWritten, hget, hhandle]
  | _ => simp [Call.operation] at hop

/-- A call that could not save a file may have lost a node. -/
private theorem of_breaks (hb : Held root lost b) (hc : c.KeepsHandle) (path : Path)
    (hbreaks : Breaks b c b') : Held root (lost ++ c.lostBy (.notWritten path)) b' := by
  obtain ⟨tests, scopes, hk, ht, hs⟩ := hb.kept
  -- no fixture is lost
  have hfixtures : handlesAs .fixture (lost ++ c.lostBy (.notWritten path)) = [] := by
    rw [handlesAs_append, hb.fixtures]
    cases c <;> rfl
  cases hbreaks with
  -- the report beside has written what this one has lost
  | write hdoes hop htests hscopes =>
    obtain ⟨hlost, hlost'⟩ := handlesAs_lostBy hk hdoes hop path
    refine ⟨hdoes.destination.trans hb.destination, hfixtures, _, _,
      (hdoes.deed tests scopes).kept hc hk, ?_, ?_⟩
    · rw [htests, handlesAs_append, hlost, ← List.append_assoc, List.map_append]
      exact ht.append_right _
    · rw [hscopes, handlesAs_append, hlost', ← List.append_assoc, List.map_append]
      exact hs.append_right _
  -- entries that break off lose nothing of what is open
  | @apply h _ hentered entries =>
    have hnone : (Call.applyMessages h entries).lostBy (.notWritten path) = [] := rfl
    have hwritten : b'.destination = b.destination ∧ b'.writtenTests = b.writtenTests
        ∧ b'.writtenScopes = b.writtenScopes := by
      obtain ⟨n, f, attachments, disk, saved, -, -, rfl⟩ := hentered
      exact ⟨rfl, rfl, rfl⟩
    obtain ⟨hdestination, htests, hscopes⟩ := hwritten
    rw [hnone, List.append_nil]
    exact ⟨hdestination.trans hb.destination, hb.fixtures, tests, scopes, hk.of_entered hentered,
      htests ▸ ht, hscopes ▸ hs⟩

/-- What has been lost is not open. -/
private theorem not_mem_openHandles (hb : Held root lost b) (hlost : (kind, h) ∈ lost) :
    h ∉ b.openHandles kind := by
  obtain ⟨tests, scopes, hk, ht, hs⟩ := hb.kept
  rw [← mem_handlesAs_iff] at hlost
  intro hopen
  cases kind with
  -- no fixture is lost
  | fixture =>
    rw [hb.fixtures] at hlost
    exact List.not_mem_nil hlost
  | test =>
    -- what is lost has been called to be written, and is not open beside
    have hclosed : h ∈ calledWith .writeTest b.calls :=
      hk.tests.closed ▸ ht.subset (List.mem_append_right _ hlost)
    exact (hk.tests.mem_open_iff.1 hopen).2 (mem_calledWith_iff.1 hclosed)
  | scope =>
    have hclosed : h ∈ calledWith .writeScope b.calls :=
      hk.scopes.closed ▸ hs.subset (List.mem_append_right _ hlost)
    exact (hk.scopes.mem_open_iff.1 hopen).2 (mem_calledWith_iff.1 hclosed)

/-- What has been started is open, written or lost, for tests and for scopes. -/
private theorem perm_started (hb : Held root lost b) :
    (b.tests.handles ++ (b.writtenTests.map (·.handle) ++ handlesAs .test lost)).Perm
        (calledWith .startTest b.calls)
      ∧ (b.scopes.handles ++ (b.writtenScopes.map (·.handle) ++ handlesAs .scope lost)).Perm
        (calledWith .startScope b.calls) := by
  obtain ⟨tests, scopes, hk, ht, hs⟩ := hb.kept
  exact ⟨(ht.append_left _).trans hk.tests.perm, (hs.append_left _).trans hk.scopes.perm⟩

end Held

/-- Whatever has been called and has become of the files, the report is held, by induction on the
calls. -/
theorem Reported.held (hb : Reported root lost b) : Held root lost b := by
  induction hb with
  | new hnew => exact .new hnew
  | files _ disk ih => exact ih.withFiles disk _
  -- the environment is saved or not, and no node is touched
  | @environment lost b b' _ info hleaves ih =>
    rcases save_cases Environment.fileName (Environment.content info) b with
      ⟨disk, saved, hruns⟩ | ⟨path, herror⟩
    · obtain ⟨a, hok⟩ | ⟨e, hfail⟩ := hleaves
      · obtain ⟨-, rfl⟩ := hruns.unique hok
        exact ih.withFiles disk saved
      · exact nomatch hruns.symm.trans hfail
    · obtain ⟨a, hok⟩ | ⟨e, hfail⟩ := hleaves
      · exact nomatch herror.symm.trans hok
      · cases herror.symm.trans hfail
        exact ih
  -- a call that returns is neither refused nor broken off
  | @returned _ c a lost b b' _ hc hruns ih =>
    rcases refused_or_ends b c with ⟨kind, h, herror⟩
      | ⟨a', b₁, hruns', hdoes, htests, hscopes⟩ | ⟨path, b₁, herror, -⟩
    · exact nomatch herror.symm.trans hruns
    · obtain ⟨-, rfl⟩ := hruns.unique hruns'
      exact ih.of_does hc hdoes htests hscopes
    · exact nomatch herror.symm.trans hruns
  | @failed _ c e lost b b' _ hc herror ih =>
    rcases refused_or_ends b c with ⟨kind, h, herror'⟩
      | ⟨a', b₁, hruns', -⟩ | ⟨path, b₁, herror', hbreaks⟩
    · -- a call that is refused loses nothing
      cases herror.symm.trans herror'
      have hnone : c.lostBy (.unknownHandle kind h) = [] := by cases c <;> rfl
      rw [hnone, List.append_nil]
      exact ih
    · exact nomatch hruns'.symm.trans herror
    · cases herror.symm.trans herror'
      -- a call that breaks off loses what it was to write
      exact ih.of_breaks hc path hbreaks

/-- What is true of a report in a results directory, once some nodes have been lost. -/
structure Accounted (root : Path) (lost : List (NodeKind × Handle)) (b : Backend) : Prop where
  /-- Every test that has been started is open, written or lost, and only one of these. -/
  tests : (b.tests.handles ++ (b.writtenTests.map (·.handle) ++ handlesAs .test lost)).Perm
      (calledWith .startTest b.calls)
    ∧ (calledWith .startTest b.calls).Nodup
  /-- Every scope that has been started is open, written or lost, and only one of these. -/
  scopes : (b.scopes.handles ++ (b.writtenScopes.map (·.handle) ++ handlesAs .scope lost)).Perm
      (calledWith .startScope b.calls)
    ∧ (calledWith .startScope b.calls).Nodup
  /-- All calls on what is lost are refused, whatever becomes of the files. -/
  gone : ∀ {α : Type} (c : Call α) (kind : NodeKind) (h : Handle) (disk : FileTree),
    c.target? = some (kind, h) → (kind, h) ∈ lost →
    c.run reporter { b with disk := disk } = .error (.unknownHandle kind h) { b with disk := disk }
  /-- An open test whose file can be saved is written. -/
  writesTest : ∀ h t disk, b.tests.get? h = some t →
    b.disk.write (root.child (h.name ++ "-result.json")).steps
      (Rendering.testJson t.snapshot).octets = .ok disk →
    Runs (writeTest h) b ()
      { b with
        tests := b.tests.remove h
        writtenTests := b.writtenTests ++ [t.snapshot]
        calls := b.calls ++ [(.writeTest, h)]
        disk := disk
        saved := b.saved ++ [(h.name ++ "-result.json", (Rendering.testJson t.snapshot).octets)] }
  /-- An open test whose file cannot be saved is closed. -/
  losesTest : ∀ h t o, b.tests.get? h = some t →
    b.disk.write (root.child (h.name ++ "-result.json")).steps
      (Rendering.testJson t.snapshot).octets = .error o →
    writeTest h b = .error (.notWritten (root.child (h.name ++ "-result.json")))
      { b with tests := b.tests.remove h, calls := b.calls ++ [(.writeTest, h)] }
  /-- An open scope whose file can be saved is written. -/
  writesScope : ∀ h s disk, b.scopes.get? h = some s →
    b.disk.write (root.child (h.name ++ "-container.json")).steps
      (Rendering.scopeJson (b.scopeResult s)).octets = .ok disk →
    Runs (writeScope h) b ()
      { b with
        scopes := b.scopes.remove h
        writtenScopes := b.writtenScopes ++ [s]
        calls := b.calls ++ [(.writeScope, h)]
        disk := disk
        saved := b.saved
          ++ [(h.name ++ "-container.json", (Rendering.scopeJson (b.scopeResult s)).octets)] }
  /-- An open scope whose file cannot be saved is closed. -/
  losesScope : ∀ h s o, b.scopes.get? h = some s →
    b.disk.write (root.child (h.name ++ "-container.json")).steps
      (Rendering.scopeJson (b.scopeResult s)).octets = .error o →
    writeScope h b = .error (.notWritten (root.child (h.name ++ "-container.json")))
      { b with scopes := b.scopes.remove h, calls := b.calls ++ [(.writeScope, h)] }

/-- Whatever is called in whatever order, and whatever becomes of the files in between: what has
been started is open or written, but for the nodes whose files could not be saved, and these are
never open again. -/
theorem Reported.accounted (hb : Reported root lost b) : Accounted root lost b := by
  have hheld := hb.held
  have hd := hheld.destination
  obtain ⟨tests, scopes, hk, -, -⟩ := hheld.kept
  exact
    { tests := ⟨hheld.perm_started.1, hk.tests.nodup⟩
      scopes := ⟨hheld.perm_started.2, hk.scopes.nodup⟩
      gone := by
        intro α c kind h disk hc hlost
        apply run_eq_error_of_closed hc
        exact (hheld.withFiles disk b.saved).not_mem_openHandles hlost
      writesTest := by
        intro h t disk ht hwrite
        -- the same call is refused again even where the file could be saved
        have hsaves := Saves.directory
          (b := { b with tests := b.tests.remove h, calls := b.calls ++ [(.writeTest, h)] }) hd
          hwrite
        exact (writeTest_eq ht).trans (hsaves.runs.bind (.change _ _))
      -- where the file cannot be saved, the test has left the table already
      losesTest := by
        intro h t o ht hwrite
        have hsave := save_eq_error
          (b := { b with tests := b.tests.remove h, calls := b.calls ++ [(.writeTest, h)] }) hd
          hwrite
        exact (writeTest_eq ht).trans (error_of_bind hsave _)
      writesScope := by
        intro h s disk hs hwrite
        have hsaves := Saves.directory
          (b := { b with scopes := b.scopes.remove h, calls := b.calls ++ [(.writeScope, h)] }) hd
          hwrite
        exact (writeScope_eq hs).trans (hsaves.runs.bind (.change _ _))
      losesScope := by
        intro h s o hs hwrite
        have hsave := save_eq_error
          (b := { b with scopes := b.scopes.remove h, calls := b.calls ++ [(.writeScope, h)] }) hd
          hwrite
        exact (writeScope_eq hs).trans (error_of_bind hsave _) }

/-- A directory stands where the file of a test belongs. It is taken away before the test is written
again. -/
theorem Reported.accounted_of_obstacle :
    ∃ b, Reported ⟨"", ["out"]⟩ [(.test, .drawn 0)] b ∧ b.tests.handles = [] ∧ b.writtenTests = []
      ∧ calledWith .startTest b.calls = [.drawn 0]
      ∧ ∀ disk, writeTest (.drawn 0) { b with disk := disk }
        = .error (.unknownHandle .test (.drawn 0)) { b with disk := disk } := by
  have hnew := @Reported.new ⟨"", ["out"]⟩
    (.ofFiles [(⟨"", ["out", "u1-result.json", "a"]⟩, [])]) _ rfl
  have hstarted := hnew.returned (c := .startTest "a" 1 []) trivial (runs_startTest _ "a" 1 [])
  have hget := Table.get?_cons_self (.drawn 0)
    ({ result := { handle := .drawn 0, name := "a", start := 1 } } : OpenTest) []
  have hclosed : ∀ t : OpenTest, (Table.remove [(.drawn 0, t)] (.drawn 0)).handles = [] :=
    fun t => congrArg Table.handles (Table.remove_cons_self List.not_mem_nil t)
  -- there is a directory under the name of the file
  have hlost := hstarted.failed (c := .writeTest (.drawn 0)) trivial
    (hstarted.accounted.losesTest (.drawn 0) _ _ hget
      (write_eq_error_of_directory (by decide +kernel) _))
  refine ⟨_, hlost, hclosed _, rfl, rfl, fun disk => ?_⟩
  exact hlost.accounted.gone (.writeTest (.drawn 0)) .test (.drawn 0) disk rfl (.head _)

/-- A test whose file cannot be written is neither open any more nor written, and it cannot be
written later. -/
theorem lost_behind_directory :
    ∃ b b',
      inDirectory (.ofFiles [(⟨"", ["out", "u1-result.json", "a"]⟩, [])]) ⟨"", ["out"]⟩ = .ok b
      ∧ Runs (startTest "a" 1 []) b (.drawn 0) b'
      ∧ ∃ b'', writeTest (.drawn 0) b' = .error (.notWritten ⟨"", ["out", "u1-result.json"]⟩) b''
        ∧ b'.tests.handles = [.drawn 0] ∧ b''.tests.handles = [] ∧ b''.writtenTests = []
        ∧ writeTest (.drawn 0) { b'' with disk := ({} : FileTree).fill ["out"] }
          = .error (.unknownHandle .test (.drawn 0))
            { b'' with disk := ({} : FileTree).fill ["out"] } := by
  have hget := Table.get?_cons_self (.drawn 0)
    ({ result := { handle := .drawn 0, name := "a", start := 1 } } : OpenTest) []
  have hclosed : ∀ t : OpenTest, (Table.remove [(.drawn 0, t)] (.drawn 0)).handles = [] :=
    fun t => congrArg Table.handles (Table.remove_cons_self List.not_mem_nil t)
  have hpath : Path.child ⟨"", ["out"]⟩ ((Handle.drawn 0).name ++ "-result.json")
      = ⟨"", ["out", "u1-result.json"]⟩ := by decide +kernel
  refine ⟨_, _, rfl, runs_startTest _ "a" 1 [], ?_⟩
  rw [← hpath]
  refine ⟨_, (writeTest_eq hget).trans (error_of_bind (save_eq_error (o := .directory) rfl ?_) _),
    ?_⟩
  -- the write fails, for there is a directory in its place
  · exact write_eq_error_of_directory (by decide +kernel) _
  -- and the test is not open any more, whatever the disk is
  · refine ⟨rfl, hclosed _, rfl, ?_⟩
    apply error_of_bind
    apply openTest_eq_error
    apply Table.get?_eq_none
    exact fun hopen => List.not_mem_nil (hclosed _ ▸ hopen)

end Backend

end Chronicle
