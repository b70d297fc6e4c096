import Chronicle.Proofs.File.Directory

/-!
# What file operations leave alone

Changing a file changes nothing at any other place. Making directories changes no file, and
preparing a file to be written at its end makes at most that one file, which is empty.
-/
namespace Chronicle.FileTree

variable {t t' t'' : FileTree} {steps place : List String} {node : FileNode} {content : Bytes}

private theorem find?_of_walk {done rest : List String} (h : t.walk done rest = .ok node) :
    t.find? (done ++ rest) = some node := by
  induction rest generalizing done with
  | nil =>
    rw [List.append_nil]
    cases hfind : t.find? done with
    | none => simp only [walk, hfind] at h; cases h
    | some found => simp only [walk, hfind] at h; cases h; rfl
  | cons name rest ih =>
    rw [List.append_cons]
    cases hfind : t.find? done with
    | none => simp only [walk, hfind] at h; cases h
    | some found =>
      -- a walk does not get past a file
      cases found with
      | file => simp only [walk, hfind] at h; cases h
      | directory => simp only [walk, hfind] at h; exact ih h

/-- What can be reached is there. -/
theorem find?_of_status (h : t.status steps = .ok node) : t.find? steps = some node :=
  find?_of_walk h

/-- Nothing is at a place that cannot be reached, although the directory around it can. -/
private theorem find?_of_hasRoom (h : t.status steps = .error .absent)
    (hroom : t.hasRoom steps = true) :
    t.find? steps = none := by
  rcases List.eq_nil_or_concat steps with rfl | ⟨dir, name, rfl⟩
  · cases h
  · rw [List.concat_eq_append] at *
    rw [hasRoom, List.dropLast_concat] at hroom
    split at hroom
    -- in a directory what is absent has no node
    next hdir =>
      rw [status_snoc, hdir, enter] at h
      -- the root is never absent
      cases hfind : t.find? (dir ++ [name]) with
      | none => rfl
      | some found => rw [hfind] at h; cases h
    next => cases hroom

/-! ### Changing a file -/

theorem eq_put_of_edit {change : Bytes → Bytes} (h : t.edit steps change = .ok t') :
    ∃ content, (t.find? steps = some (.file content) ∨ t.find? steps = none ∧ content = [])
      ∧ steps ≠ [] ∧ t' = t.put steps (.file (change content)) := by
  have hroot : steps ≠ [] := by
    rintro rfl
    cases h
  unfold edit at h
  split at h
  next content hstatus => cases h; exact ⟨content, .inl (find?_of_status hstatus), hroot, rfl⟩
  next => cases h
  next hstatus =>
    -- a file that was not there starts from nothing
    by_cases hroom : t.hasRoom steps = true
    · simp only [hroom, if_true] at h
      cases h
      exact ⟨[], .inr ⟨find?_of_hasRoom hstatus hroom, rfl⟩, hroot, rfl⟩
    · simp only [hroom] at h
      cases h
  next => cases h

theorem find?_edit_of_ne {change : Bytes → Bytes} (h : t.edit steps change = .ok t')
    (hne : place ≠ steps) : t'.find? place = t.find? place := by
  obtain ⟨content, -, -, rfl⟩ := eq_put_of_edit h
  exact find?_put_of_ne hne

/-! ### Files that are kept -/

/-- Every file is kept as it is, and no file is new but empty ones at some places. -/
structure KeepsFiles (new : List (List String)) (t t' : FileTree) : Prop where
  kept : ∀ {place content}, t.find? place = some (.file content) →
    t'.find? place = some (.file content)
  added : ∀ {place content}, t'.find? place = some (.file content) →
    t.find? place = some (.file content) ∨ place ∈ new ∧ content = []

namespace KeepsFiles

variable {new new' : List (List String)}

theorem refl (t : FileTree) : KeepsFiles [] t t :=
  ⟨id, .inl⟩

theorem trans (h : KeepsFiles new t t') (h' : KeepsFiles new' t' t'') :
    KeepsFiles (new ++ new') t t'' where
  kept hfile := h'.kept (h.kept hfile)
  added hfile := by
    rcases h'.added hfile with hfile | ⟨hmem, hempty⟩
    · rcases h.added hfile with hfile | ⟨hmem, hempty⟩
      · exact .inl hfile
      · exact .inr ⟨List.mem_append_left _ hmem, hempty⟩
    · exact .inr ⟨List.mem_append_right _ hmem, hempty⟩

private theorem put_directory (hfree : t.find? steps = none) :
    KeepsFiles [] t (t.put steps .directory) := by
  -- the root is a directory, so its place is not free
  have hroot : steps ≠ [] := by
    rintro rfl
    cases hfree
  refine ⟨fun {place content} hfile => ?_, fun {place content} hfile => ?_⟩
  · rw [find?_put_of_ne, hfile]
    rintro rfl
    rw [hfree] at hfile
    cases hfile
  -- what is put is no file, so every file was there before
  · by_cases hplace : place = steps
    · rw [hplace, find?_put_self hroot] at hfile
      cases hfile
    · rw [find?_put_of_ne hplace] at hfile
      exact .inl hfile

theorem fill (t : FileTree) (steps : List String) : KeepsFiles [] t (t.fill steps) := by
  unfold FileTree.fill
  induction waypoints steps generalizing t with
  | nil => exact refl t
  | cons place rest ih =>
    rw [List.foldl_cons]
    -- a place that is taken is left as it is
    by_cases hfree : (t.find? place).isNone = true
    · rw [if_pos hfree]
      exact (put_directory (Option.isNone_iff_eq_none.1 hfree)).trans (ih _)
    · rw [if_neg hfree]
      exact ih t

theorem makeDirectories (h : t.makeDirectories steps = .ok t') : KeepsFiles [] t t' := by
  unfold FileTree.makeDirectories at h
  split at h <;> cases h
  · exact refl t
  · exact fill t steps

/-- A file to which nothing is added is kept, or it is new. -/
theorem append_nil (h : t.append steps [] = .ok t') : KeepsFiles [steps] t t' := by
  obtain ⟨content, hfind, hroot, rfl⟩ := eq_put_of_edit h
  rw [List.append_nil]
  refine ⟨fun {place content'} hfile => ?_, fun {place content'} hfile => ?_⟩
  · by_cases hplace : place = steps
    · subst hplace
      rcases hfind with hfind | ⟨hfind, -⟩ <;> rw [hfind] at hfile <;> cases hfile
      exact find?_put_self hroot
    · rw [find?_put_of_ne hplace, hfile]
  -- only the file itself can be new, and then it is empty
  · by_cases hplace : place = steps
    · subst hplace
      rw [find?_put_self hroot] at hfile
      cases hfile
      rcases hfind with hfind | ⟨-, hempty⟩
      · exact .inl hfind
      · exact .inr ⟨List.mem_singleton_self _, hempty⟩
    · rw [find?_put_of_ne hplace] at hfile
      exact .inl hfile

end KeepsFiles

end Chronicle.FileTree
