import Chronicle.Proofs.File.Frame
import Chronicle.Proofs.Keeps

/-!
# What the calls of a report save

A call is noted at the end of the others. It saves the file of a test, a scope or an attachment, and
leaves the file of the environment alone. This holds of calls that fail as well, which may have
saved something before: `Backend.keeps_call`.
-/
namespace Chronicle.Backend

/-- The place of the file that is known about the environment. -/
def environmentPlace (root : Path) : List String :=
  (root.child Environment.fileName).steps

/-- A report has come out of another one by calls, and nothing has been saved about the environment.
The file for it is as it was, unless its place is one where something else is `logged`. -/
structure SavesRecords (logged : List (List String)) (b b' : Backend) : Prop where
  calls : b.calls <+: b'.calls
  destination : b'.destination = b.destination
  saved : ∃ more, b'.saved = b.saved ++ more ∧ ∀ f ∈ more, f.1 ≠ Environment.fileName
  disk : ∀ root, b.destination = .directory root → environmentPlace root ∉ logged →
    b'.disk.find? (environmentPlace root) = b.disk.find? (environmentPlace root)

variable {logged : List (List String)}

namespace SavesRecords

/-- Doing nothing saves nothing. -/
theorem refl (b : Backend) : SavesRecords logged b b :=
  ⟨List.prefix_rfl, rfl, ⟨[], (List.append_nil _).symm, nofun⟩, fun _ _ _ => rfl⟩

/-- What is saved in two parts is saved. -/
theorem trans (b b' b'' : Backend) (h : SavesRecords logged b b')
    (h' : SavesRecords logged b' b'') : SavesRecords logged b b'' := by
  obtain ⟨more, hmore, hnames⟩ := h.saved
  obtain ⟨more', hmore', hnames'⟩ := h'.saved
  refine ⟨h.calls.trans h'.calls, h'.destination.trans h.destination, ⟨more ++ more', ?_, ?_⟩,
    fun root hroot hplace => ?_⟩
  -- what has been saved is saved in two parts
  · rw [hmore', hmore, List.append_assoc]
  · intro f hf
    rcases List.mem_append.1 hf with hf | hf
    · exact hnames f hf
    · exact hnames' f hf
  · rw [h'.disk root (h.destination.trans hroot) hplace, h.disk root hroot hplace]

end SavesRecords

/-! ### Parts of operations -/

/-- What has nothing to do with calls and files can be changed. -/
private theorem keeps_change {f : Backend → Backend}
    (hf : ∀ b, (f b).calls = b.calls ∧ (f b).destination = b.destination ∧ (f b).saved = b.saved
      ∧ (f b).disk = b.disk) :
    Keeps (SavesRecords logged) (modify f : Reporting PUnit) := by
  refine .change fun b => ?_
  obtain ⟨hcalls, hdestination, hsaved, hdisk⟩ := hf b
  exact ⟨hcalls ▸ List.prefix_rfl, hdestination, ⟨[], by rw [hsaved, List.append_nil], nofun⟩,
    fun _ _ _ => by rw [hdisk]⟩

/-- A call that is noted saves nothing. -/
private theorem keeps_called (op : Operation) (h : Handle) :
    Keeps (SavesRecords logged) (called op h) :=
  .change fun _ => ⟨List.prefix_append .., rfl, ⟨[], (List.append_nil _).symm, nofun⟩,
    fun _ _ _ => rfl⟩

/-- A handle that is drawn saves nothing. -/
private theorem keeps_draw : Keeps (SavesRecords logged) draw :=
  fun _ => ⟨List.prefix_rfl, rfl, ⟨[], (List.append_nil _).symm, nofun⟩, fun _ _ _ => rfl⟩

/-- Looking a scope up saves nothing. -/
private theorem keeps_openScope (h : Handle) : Keeps (SavesRecords logged) (openScope h) := by
  refine .get fun b => ?_
  cases b.scopes.get? h with
  | none => exact .throw .refl _
  | some s => exact .pure .refl s

/-- Nor does looking a test up. -/
private theorem keeps_openTest (h : Handle) : Keeps (SavesRecords logged) (openTest h) := by
  refine .get fun b => ?_
  cases b.tests.get? h with
  | none => exact .throw .refl _
  | some t => exact .pure .refl t

/-- Nor does looking a fixture up. -/
private theorem keeps_requireRunning (h : Handle) :
    Keeps (SavesRecords logged) (requireRunning h) := by
  refine .get fun b => ?_
  cases b.running.contains h with
  | false => exact .throw .refl _
  | true => exact .pure .refl ()

/-- The name of the environment's file has no dash in it, those of records do. -/
private theorem keeps_save {name : String} (hname : '-' ∈ name.toList) (content : Bytes) :
    Keeps (SavesRecords logged) (save name content) := by
  -- the names of records have a hyphen, that of the environment has none
  have hne : name ≠ Environment.fileName := by
    rintro rfl
    revert hname
    decide
  have hdots : name ≠ ".." := by
    rintro rfl
    revert hname
    decide
  intro b
  rw [save, (Runs.get b).bind_eq]
  cases hd : b.destination with
  | memory => exact .refl b
  | directory root =>
    cases hwrite : b.disk.write (root.child name).steps content with
    -- a write that fails changes nothing
    | error o => simp only [hwrite]; exact .refl b
    | ok disk =>
      simp only [hwrite]
      refine ⟨List.prefix_rfl, hd.symm, ⟨[(name, content)], rfl, by simpa using hne⟩,
        fun root' hroot' _ => ?_⟩
      rw [hd] at hroot'
      cases hroot'
      -- the file of the environment is another one, so it stays
      refine FileTree.find?_edit_of_ne hwrite ?_
      rw [environmentPlace, Path.steps_child root (by decide), Path.steps_child root hdots]
      intro heq
      exact hne (List.singleton_inj.1 (List.append_cancel_left heq)).symm

/-! ### Operations -/

/-- An entry saves at most the source of an attachment. -/
private theorem keeps_applyEntry (h : Handle) (e : TestEntry) :
    Keeps (SavesRecords logged) (applyEntry h e) := by
  have hchange : ∀ f, Keeps (SavesRecords logged) (changeTest h f) := fun _ =>
    keeps_change fun _ => ⟨rfl, rfl, rfl, rfl⟩
  cases e with
  | stepStart name start => exact hchange _
  | stepStop status stop details => exact hchange _
  | metadata labels parameters => exact hchange _
  -- a handle is drawn, the test changed, the source kept and its file saved
  | attachment file =>
    refine .bind SavesRecords.trans keeps_draw fun source => ?_
    refine .bind SavesRecords.trans (hchange _) fun _ => .bind SavesRecords.trans ?_ fun _ => ?_
    · exact keeps_change fun _ => ⟨rfl, rfl, rfl, rfl⟩
    · exact keeps_save (by simp [sourceName]) _

/-- Entries save at most the sources of their attachments, by induction on them. -/
private theorem keeps_applyMessages (h : Handle) (entries : List TestEntry) :
    Keeps (SavesRecords logged) (applyMessages h entries) := by
  refine .bind SavesRecords.trans (keeps_openTest h) fun _ => ?_
  refine .bind SavesRecords.trans ?_ fun _ => keeps_called _ h
  induction entries with
  | nil => exact .pure .refl _
  | cons e rest ih => exact .bind SavesRecords.trans (keeps_applyEntry h e) fun _ => ih

/-- A call saves the file of a record at most, whether it succeeds or fails. -/
theorem keeps_call {α : Type} (c : Call α) : Keeps (SavesRecords logged) (c.run reporter) := by
  have htrans : ∀ b b' b'' : Backend, SavesRecords logged b b' → SavesRecords logged b' b'' →
      SavesRecords logged b b'' := SavesRecords.trans
  -- each operation is made of the parts above, whether they succeed or not
  cases c with
  | startScope =>
    refine .bind htrans keeps_draw fun h => .bind htrans ?_ fun _ => ?_
    · exact keeps_change fun _ => ⟨rfl, rfl, rfl, rfl⟩
    · exact .bind htrans (keeps_called _ h) fun _ => .pure .refl h
  | writeScope h =>
    refine .bind htrans (keeps_openScope h) fun s => .bind htrans ?_ fun _ => ?_
    · exact keeps_change fun _ => ⟨rfl, rfl, rfl, rfl⟩
    refine .bind htrans (keeps_called _ h) fun _ => .get fun b => ?_
    refine .bind htrans (keeps_save (by simp) _) fun _ => ?_
    exact keeps_change fun _ => ⟨rfl, rfl, rfl, rfl⟩
  | startTest name start scopes =>
    refine .bind htrans keeps_draw fun h => .bind htrans ?_ fun _ => ?_
    · exact keeps_change fun _ => ⟨rfl, rfl, rfl, rfl⟩
    · exact .bind htrans (keeps_called _ h) fun _ => .pure .refl h
  | updateTest h f =>
    refine .bind htrans (keeps_openTest h) fun _ => .bind htrans ?_ fun _ => keeps_called _ h
    exact keeps_change fun _ => ⟨rfl, rfl, rfl, rfl⟩
  | stopTest h stop duration =>
    refine .bind htrans (keeps_openTest h) fun _ => .bind htrans ?_ fun _ => keeps_called _ h
    exact keeps_change fun _ => ⟨rfl, rfl, rfl, rfl⟩
  | writeTest h =>
    refine .bind htrans (keeps_openTest h) fun t => .bind htrans ?_ fun _ => ?_
    · exact keeps_change fun _ => ⟨rfl, rfl, rfl, rfl⟩
    refine .bind htrans (keeps_called _ h) fun _ => ?_
    refine .bind htrans (keeps_save (by simp) _) fun _ => ?_
    exact keeps_change fun _ => ⟨rfl, rfl, rfl, rfl⟩
  -- with no scope open nothing is done at all
  | startFixture scope kind name start =>
    refine .get fun b => ?_
    cases scope.filter b.scopes.has with
    | none => exact .pure .refl none
    | some s =>
      refine .bind htrans keeps_draw fun h => .bind htrans ?_ fun _ => ?_
      · exact keeps_change fun _ => ⟨rfl, rfl, rfl, rfl⟩
      · exact .bind htrans (keeps_called _ h) fun _ => .pure .refl (some h)
  | updateFixture h f =>
    refine .bind htrans (keeps_requireRunning h) fun _ => .bind htrans ?_ fun _ => keeps_called _ h
    exact keeps_change fun _ => ⟨rfl, rfl, rfl, rfl⟩
  | stopFixture h stop duration =>
    refine .bind htrans (keeps_requireRunning h) fun _ => .bind htrans ?_ fun _ => ?_
    · exact keeps_change fun _ => ⟨rfl, rfl, rfl, rfl⟩
    refine .bind htrans ?_ fun _ => keeps_called _ h
    exact keeps_change fun _ => ⟨rfl, rfl, rfl, rfl⟩
  | applyMessages h entries => exact keeps_applyMessages h entries

/-- The calls of a reporter save records only, and its notes save nothing. -/
theorem keeping_reporter : reporter.Keeping (SavesRecords logged) where
  refl := .refl
  trans := .trans
  call := keeps_call
  note _ _ := .pure .refl ()

end Chronicle.Backend
