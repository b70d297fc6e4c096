import Chronicle.Proofs.File.Directory
import Chronicle.Proofs.Report.Fixtures
import Mathlib.Data.List.Nodup

/-!
# The files of a report

A report in a results directory saves one file for each test and each scope that is written and for
each attachment. `Backend.files` are these files, and no two of them have one name. What the report
has saved is found in the directory, next to what was there before: `Backend.Shelved`.
`Backend.Housed` is all that holds of such a report, after any number of steps.
-/
namespace Chronicle

/-- The file of a test. -/
def resultFile (r : TestResult) : String × Bytes :=
  (r.handle.name ++ "-result.json", (Rendering.testJson r).octets)

/-- The file of a scope. -/
def containerFile (c : ScopeResult) : String × Bytes :=
  (c.handle.name ++ "-container.json", (Rendering.scopeJson c).octets)

/-! ### Names of files -/

/-- The letter after the first dash in the name of a file, which tells what the file is for. -/
def letterOf (name : String) : Option Char :=
  (name.toList.dropWhile (· ≠ '-'))[1]?

/-- The letter of a file name comes after the name of its handle. -/
private theorem letterOf_append {h : Handle} {n : Nat} (hh : h.IsBefore n) {ending : String}
    (hending : ending.toList.head? = some '-') :
    letterOf (h.name ++ ending) = ending.toList[1]? := by
  obtain ⟨k, -, rfl⟩ := hh
  rw [letterOf, String.toList_append,
    List.dropWhile_append_of_pos fun c hc => decide_eq_true (ne_dash_of_mem_drawn hc)]
  -- the ending itself starts with the dash
  rw [List.dropWhile_eq_self_iff.2]
  intro hlength
  obtain ⟨rest, hrest⟩ := List.head?_eq_some_iff.1 hending
  simp [hrest]

/-- Sources have a letter of their own. -/
private theorem letterOf_sourceName {n : Nat} (type : String) :
    letterOf (Backend.sourceName (.drawn n) type) = some 'a' := by
  rw [Backend.sourceName, String.append_assoc,
    letterOf_append ⟨n, Nat.lt_succ_self n, rfl⟩ (by rw [String.toList_append]; rfl),
    String.toList_append]
  rfl

/-- With the same ending, files are as different as what they are for. -/
private theorem nodup_names_append {hs : List Handle} (hnodup : hs.Nodup) (ending : String) :
    (hs.map fun h => h.name ++ ending).Nodup := by
  apply List.Nodup.map _ hnodup
  intro h h' heq
  rw [Handle.mk.injEq]
  exact (String.append_left_inj ending).1 heq

/-- What is saved last may stand anywhere among the files. -/
private theorem perm_insert {α : Type} {all before after : List α} (h : all.Perm (before ++ after))
    (a : α) : (all ++ [a]).Perm (before ++ a :: after) :=
  (List.perm_append_singleton a all).trans ((h.cons a).trans List.perm_middle.symm)

namespace Backend

variable {b b' : Backend} {root : Path} {name : String} {content : Bytes}

/-! ### One file for each record -/

/-- The files of what has been written, and those of the attachments. -/
def files (b : Backend) : List (String × Bytes) :=
  b.writtenTests.map resultFile ++ b.writtenScopes.map (fun s => containerFile (b.shownScope s))
    ++ b.attachments

/-- In a directory saving saves. -/
private theorem Saves.eq_directory (hs : Saves name content b b')
    (hd : b.destination = .directory root) :
    ∃ disk, b.disk.write (root.child name).steps content = .ok disk
      ∧ b' = { b with disk := disk, saved := b.saved ++ [(name, content)] } := by
  cases hs with
  | memory hm => rw [hm] at hd; cases hd
  | directory hd' hwrite =>
    rw [hd'] at hd
    cases hd
    exact ⟨_, hwrite, rfl⟩

/-- A scope that is open has not been written. -/
private theorem not_written_of_open (ho : b.Orderly) (hl : b.Listing) {e : Handle × Scope}
    (he : e ∈ b.scopes) : (.writeScope, e.1) ∉ b.calls := by
  intro hcall
  have hdisjoint := (List.nodup_append.1 ho.numbered.scopes.nodup).2.2
  exact hdisjoint e.1 (List.mem_map_of_mem he) e.1 ((hl.writes e.1).1 hcall) rfl

/-- The effect of a step on files: none, or one is saved for what is written or attached. -/
inductive FileEffect (b b' : Backend) : Prop
  | none (hsaved : b'.saved = b.saved) (htests : b'.writtenTests = b.writtenTests)
      (hscopes : b'.writtenScopes = b.writtenScopes) (hattachments : b'.attachments = b.attachments)
  | scope {s : Scope} (hs : (s.handle, s) ∈ b.scopes) (hfixtures : b'.fixtures = b.fixtures)
      (hcalls : b'.calls = b.calls ++ [(.writeScope, s.handle)])
      (hsaved : b'.saved = b.saved ++ [containerFile (b.scopeResult s)])
      (htests : b'.writtenTests = b.writtenTests)
      (hscopes : b'.writtenScopes = b.writtenScopes ++ [s])
      (hattachments : b'.attachments = b.attachments)
  | test {r : TestResult} (hsaved : b'.saved = b.saved ++ [resultFile r])
      (htests : b'.writtenTests = b.writtenTests ++ [r])
      (hscopes : b'.writtenScopes = b.writtenScopes) (hattachments : b'.attachments = b.attachments)
  | attachment {a : String × Bytes} (hsaved : b'.saved = b.saved ++ [a])
      (htests : b'.writtenTests = b.writtenTests) (hscopes : b'.writtenScopes = b.writtenScopes)
      (hattachments : b'.attachments = a :: b.attachments)

/-- A step saves the file of one scope, one test or one attachment, or saves none. -/
private theorem Step.fileEffect (hstep : Step b b') (hd : b.destination = .directory root)
    (hk : b.Keyed) : FileEffect b b' := by
  cases hstep with
  -- the node is filed under its own handle
  | @writeScope _ h s hs hsave =>
    have hmem := Table.mem_of_get? hs
    obtain rfl : s.handle = h := hk.scopes _ hmem
    obtain ⟨disk, -, rfl⟩ := hsave.eq_directory hd
    exact .scope hmem rfl rfl rfl rfl rfl rfl
  -- the attachment is filed under its source
  | attach ht file hsave =>
    obtain ⟨disk, -, rfl⟩ := hsave.eq_directory hd
    exact .attachment rfl rfl rfl rfl
  | @writeTest _ h t ht hsave =>
    obtain rfl : t.snapshot.handle = h :=
      t.handle_snapshot.trans (hk.tests _ (Table.mem_of_get? ht))
    obtain ⟨disk, -, rfl⟩ := hsave.eq_directory hd
    exact .test rfl rfl rfl rfl
  | _ => exact .none rfl rfl rfl rfl

/-- What a step saves, and nothing else, comes to the files of the report. -/
theorem Step.filed (hstep : Step b b') (hd : b.destination = .directory root) (ho : b.Orderly)
    (ha : b.Attended) (hl : b.Listing) (hf : b.saved.Perm b.files) : b'.saved.Perm b'.files := by
  -- what the files of scopes show is not changed by later steps
  have hkept : b.writtenScopes.map (fun s => containerFile (b'.shownScope s))
      = b.writtenScopes.map fun s => containerFile (b.shownScope s) :=
    List.map_congr_left fun s hs => by rw [hstep.shownScope_eq ha hl hs]
  cases hstep.fileEffect hd ho.keyed with
  -- nothing is filed
  | none hsaved htests hscopes hattachments =>
    rwa [files, hsaved, htests, hscopes, hattachments, hkept]
  | @scope s hs hfixtures hcalls hsaved htests hscopes hattachments =>
    -- the file shows the scope as it is when it is written
    have hshown : b'.shownScope s = b.scopeResult s :=
      shownScope_of_written ha (hl.scopes _ hs) (not_written_of_open ho hl hs) hfixtures hcalls
    rw [files, hsaved, htests, hscopes, hattachments, List.map_append, hkept, List.map_singleton,
      hshown]
    simpa using perm_insert hf (containerFile (b.scopeResult s))
  | @test r hsaved htests hscopes hattachments =>
    rw [files, hsaved, htests, hscopes, hattachments, hkept, List.map_append, List.map_singleton]
    rw [files, List.append_assoc] at hf
    simpa using perm_insert hf (resultFile r)
  | @attachment a hsaved htests hscopes hattachments =>
    rw [files, hsaved, htests, hscopes, hattachments, hkept]
    exact perm_insert hf a

/-- The names of the files of a report are all different. -/
theorem Orderly.nodup_files (ho : b.Orderly) : (b.files.map (·.1)).Nodup := by
  obtain ⟨-, htests, -⟩ := List.nodup_append.1 ho.numbered.tests.nodup
  obtain ⟨-, hscopes, -⟩ := List.nodup_append.1 ho.numbered.scopes.nodup
  have hresults : b.writtenTests.map (fun r => (resultFile r).1)
      = (b.writtenTests.map (·.handle)).map fun h => h.name ++ "-result.json" := by
    rw [List.map_map]
    rfl
  have hcontainers : b.writtenScopes.map (fun s => (containerFile (b.shownScope s)).1)
      = (b.writtenScopes.map (·.handle)).map fun h => h.name ++ "-container.json" := by
    rw [List.map_map]
    rfl
  -- names of different sections differ in the letter after the first dash
  have hresult : ∀ name ∈ b.writtenTests.map (fun r => (resultFile r).1),
      letterOf name = some 'r' := by
    intro name hname
    obtain ⟨h, hh, rfl⟩ := List.mem_map.1 (hresults ▸ hname)
    exact letterOf_append (ho.numbered.tests.isBefore h (List.mem_append_right _ hh)) rfl
  have hcontainer : ∀ name ∈ b.writtenScopes.map (fun s => (containerFile (b.shownScope s)).1),
      letterOf name = some 'c' := by
    intro name hname
    obtain ⟨h, hh, rfl⟩ := List.mem_map.1 (hcontainers ▸ hname)
    exact letterOf_append (ho.numbered.scopes.isBefore h (List.mem_append_right _ hh)) rfl
  have hattachment : ∀ name ∈ b.attachments.map (·.1), letterOf name = some 'a' := by
    intro name hname
    obtain ⟨a, ha, rfl⟩ := List.mem_map.1 hname
    obtain ⟨k, -, type, heq⟩ := ho.sourced.drawn a ha
    rw [heq, letterOf_sourceName]
  rw [files, List.map_append, List.map_append, List.map_map, List.map_map]
  refine List.nodup_append.2 ⟨List.nodup_append.2 ⟨?_, ?_, ?_⟩, ho.sourced.nodup, ?_⟩
  -- within a section the names differ as the handles do
  · exact hresults ▸ nodup_names_append htests _
  · exact hcontainers ▸ nodup_names_append hscopes _
  · rintro x hx y hy rfl
    have hsame := (hresult x hx).symm.trans (hcontainer x hy)
    cases hsame
  · rintro x hx y hy rfl
    have hsame := hattachment x hy
    rcases List.mem_append.1 hx with hx | hx
    · cases hsame.symm.trans (hresult x hx)
    · cases hsame.symm.trans (hcontainer x hx)

/-! ### The directory -/

/-- What has been saved is in the directory of the report, and the rest of the directory is as it
was in the tree `before`. -/
structure Shelved (before : FileTree) (root : Path) (b : Backend) : Prop where
  destination : b.destination = .directory root
  directory : before.status root.steps = .ok .directory → b.disk.status root.steps = .ok .directory
  saved : ∀ file ∈ b.saved, b.disk.status (root.steps ++ [file.1]) = .ok (.file file.2)
  others : ∀ name ∉ b.saved.map (·.1),
    b.disk.status (root.steps ++ [name]) = before.status (root.steps ++ [name])

variable {before : FileTree}

/-- Saving a file under a new name puts it next to the others. -/
private theorem Saves.shelved (hs : Saves name content b b') (hname : name ≠ "..")
    (hnodup : (b'.saved.map (·.1)).Nodup) (h : b.Shelved before root) : b'.Shelved before root := by
  obtain ⟨disk, hwrite, rfl⟩ := hs.eq_directory h.destination
  rw [root.steps_child hname] at hwrite
  -- no two files have one name, so nothing is written over
  have hnew : ∀ file ∈ b.saved, file.1 ≠ name := by
    rw [List.map_append] at hnodup
    intro file hfile
    exact (List.nodup_append.1 hnodup).2.2 _ (List.mem_map_of_mem hfile) _ List.mem_cons_self
  refine ⟨h.destination, fun _ => FileTree.status_write_dir hwrite, ?_, ?_⟩
  · refine List.forall_mem_append.2 ⟨?_, ?_⟩
    · intro file hfile
      -- the earlier files stay as they are
      rw [FileTree.status_write_of_ne hwrite (hnew file hfile)]
      exact h.saved file hfile
    · exact List.forall_mem_singleton.2 (FileTree.status_write hwrite)
  -- a name that nothing was saved under is still as before
  · intro other hother
    simp only [List.map_append, List.map_cons, List.map_nil, List.mem_append, List.mem_singleton,
      not_or] at hother
    rw [FileTree.status_write_of_ne hwrite hother.2]
    exact h.others other hother.1

/-- Whatever does not touch the directory leaves it as it is. -/
theorem Shelved.congr (h : b.Shelved before root) (hdestination : b'.destination = b.destination)
    (hdisk : b'.disk = b.disk) (hsaved : b'.saved = b.saved) : b'.Shelved before root := by
  obtain ⟨hd, hdirectory, hfiles, hothers⟩ := h
  refine ⟨hdestination.trans hd, ?_, ?_, ?_⟩
  · rwa [hdisk]
  · rwa [hdisk, hsaved]
  · rwa [hdisk, hsaved]

/-- After a step what was saved is still found in the directory. -/
private theorem Step.shelved (hstep : Step b b') (hnodup : (b'.saved.map (·.1)).Nodup)
    (h : b.Shelved before root) : b'.Shelved before root := by
  cases hstep with
  -- each of the three saves one file, and the other steps none
  | writeScope hs hsave =>
    refine (hsave.shelved (append_ne_dots _ (by decide)) hnodup ?_).congr rfl rfl rfl
    exact h.congr rfl rfl rfl
  | attach ht file hsave =>
    refine (hsave.shelved (sourceName_ne_dots _ _) hnodup ?_).congr rfl rfl rfl
    exact h.congr rfl rfl rfl
  | writeTest ht hsave =>
    refine (hsave.shelved (append_ne_dots _ (by decide)) hnodup ?_).congr rfl rfl rfl
    exact h.congr rfl rfl rfl
  | _ => exact h.congr rfl rfl rfl

/-- In a directory that was empty everything can be saved. -/
private theorem Shelved.not_obstructed (h : b.Shelved before root)
    (hempty : before.IsEmptyDirectory root.steps) : ¬b.Obstructed := by
  rintro ⟨root', name, content, o, hdestination, hname, hwrite⟩
  rw [h.destination] at hdestination
  cases hdestination
  rw [root.steps_child hname] at hwrite
  have hfile : b.disk.status (root.steps ++ [name]) ≠ .ok .directory := by
    -- what the report has saved is a file, and nothing else is there
    by_cases hmem : name ∈ b.saved.map (·.1)
    · obtain ⟨file, hfile, rfl⟩ := List.mem_map.1 hmem
      rw [h.saved file hfile]
      exact nofun
    · rw [h.others name hmem, hempty.empty name]
      exact nofun
  -- so the write goes through
  obtain ⟨disk, hok⟩ := FileTree.exists_write (h.directory hempty.directory) hfile content
  rw [hok] at hwrite
  cases hwrite

/-! ### Any number of steps -/

/-- What holds of a report in a results directory. -/
structure Housed (before : FileTree) (root : Path) (b : Backend) : Prop where
  orderly : b.Orderly
  attended : b.Attended
  listing : b.Listing
  filed : b.saved.Perm b.files
  shelved : b.Shelved before root

/-- A step keeps a report housed. -/
theorem Step.housed (hstep : Step b b') (h : b.Housed before root) : b'.Housed before root := by
  have horderly := hstep.orderly h.orderly
  have hfiled := hstep.filed h.shelved.destination h.orderly h.attended h.listing h.filed
  exact
    { orderly := horderly
      attended := hstep.fixtureEffect.attended h.attended
      listing := hstep.listing h.orderly.keyed h.listing
      filed := hfiled
      shelved := hstep.shelved ((hfiled.map _).nodup_iff.2 horderly.nodup_files) h.shelved }

/-- So do any number of steps, by induction on them. -/
theorem Steps.housed (hsteps : Steps b b') (h : b.Housed before root) : b'.Housed before root := by
  induction hsteps with
  | refl => exact h
  | tail _ hstep ih => exact hstep.housed ih

/-- A new report in a directory is empty but for the directory. -/
private theorem eq_of_inDirectory {disk : FileTree} (hb : inDirectory disk root = .ok b) :
    b = { destination := .directory root, disk := b.disk } := by
  rw [inDirectory] at hb
  cases hmake : disk.makeDirectories root.steps <;> rw [hmake] at hb <;> cases hb
  rfl

/-- A report in a new results directory begins like one in memory. -/
theorem forget_inDirectory {disk : FileTree} (hb : inDirectory disk root = .ok b) :
    b.forget = inMemory {} := by
  rw [eq_of_inDirectory hb]
  rfl

/-- A new report is housed in its directory. -/
theorem housed_inDirectory {disk : FileTree} (hb : inDirectory disk root = .ok b) :
    b.Housed b.disk root := by
  rw [eq_of_inDirectory hb]
  exact
    { orderly := orderly_empty _ _
      attended := ⟨⟨List.nodup_nil, List.forall_mem_nil _⟩, List.forall_mem_nil _,
        List.forall_mem_nil _, fun _ h => absurd h List.not_mem_nil⟩
      listing := ⟨List.forall_mem_nil _, List.forall_mem_nil _, fun _ => by simp⟩
      filed := .refl _
      shelved := ⟨rfl, id, List.forall_mem_nil _, fun _ _ => rfl⟩ }

/-- In a directory that was empty no step gets stuck. -/
theorem Housed.not_getsStuck (h : b.Housed before root)
    (hempty : before.IsEmptyDirectory root.steps) : ¬b.GetsStuck := by
  rintro ⟨b', hsteps, hobstructed⟩
  exact (Steps.housed hsteps h).shelved.not_obstructed hempty hobstructed

/-! ### Finding files -/

namespace Housed

variable (h : b.Housed before root)

include h

/-- Each file of the report is in the directory. -/
private theorem status_file {file : String × Bytes} (hfile : file ∈ b.files) :
    b.disk.status (root.steps ++ [file.1]) = .ok (.file file.2) :=
  h.shelved.saved file (h.filed.symm.subset hfile)

/-- The file of a test that was written is found in the directory. -/
theorem status_result {r : TestResult} (hr : r ∈ b.writtenTests) :
    b.disk.status (root.steps ++ [(resultFile r).1]) = .ok (.file (resultFile r).2) := by
  refine h.status_file ?_
  rw [files, List.append_assoc]
  exact List.mem_append_left _ (List.mem_map_of_mem hr)

/-- So is that of a scope. -/
theorem status_container {s : Scope} (hs : s ∈ b.writtenScopes) :
    b.disk.status (root.steps ++ [(containerFile (b.shownScope s)).1])
      = .ok (.file (containerFile (b.shownScope s)).2) := by
  refine h.status_file (List.mem_append_left _ (List.mem_append_right _ ?_))
  exact List.mem_map.2 ⟨s, hs, rfl⟩

/-- So is an attachment. -/
theorem status_attachment {a : String × Bytes} (ha : a ∈ b.attachments) :
    b.disk.status (root.steps ++ [a.1]) = .ok (.file a.2) :=
  h.status_file (List.mem_append_right _ ha)

/-- In a directory that was empty there is nothing else. -/
theorem status_iff (hempty : before.IsEmptyDirectory root.steps) (name : String)
    (node : FileNode) : b.disk.status (root.steps ++ [name]) = .ok node
      ↔ ∃ content, (name, content) ∈ b.saved ∧ node = .file content := by
  constructor
  · intro hstatus
    -- a name is saved, or there is nothing under it
    by_cases hmem : name ∈ b.saved.map (·.1)
    · obtain ⟨file, hfile, rfl⟩ := List.mem_map.1 hmem
      rw [h.shelved.saved file hfile] at hstatus
      cases hstatus
      exact ⟨file.2, hfile, rfl⟩
    · rw [h.shelved.others name hmem, hempty.empty name] at hstatus
      cases hstatus
  · rintro ⟨content, hfile, rfl⟩
    exact h.shelved.saved _ hfile

end Housed

end Backend

end Chronicle
