import Chronicle.Proofs.File.Frame

/-!
# Adding to a file

A file that can be reached can be added to, again and again: what is added comes after what is
there.
-/
namespace Chronicle.FileTree

variable {t t' : FileTree} {steps : List String} {old added : Bytes}

/-- The content of the file at a place; nothing where there is no file. -/
def contentAt (t : FileTree) (steps : List String) : Bytes :=
  match t.find? steps with
  | some (.file content) => content
  | _ => []

theorem contentAt_of_find? (h : t.find? steps = some (.file old)) : t.contentAt steps = old := by
  rw [contentAt, h]

/-- A new file that is empty adds nothing to what was at its place. -/
theorem KeepsFiles.contentAt_eq {new : List (List String)} (h : KeepsFiles new t t')
    (steps : List String) : t'.contentAt steps = t.contentAt steps := by
  unfold contentAt
  split
  next content hfind =>
    -- the file was there before, or has been added empty
    rcases h.added hfind with hold | ⟨-, rfl⟩
    · rw [hold]
    · -- the file is empty; had there been another before, it would have been kept
      split
      next content hold =>
        have hkept := h.kept hold
        rw [hfind] at hkept
        cases hkept
        rfl
      next => rfl
  next hnone =>
    split
    next content hold => exact absurd (h.kept hold) (hnone content)
    next => rfl

private theorem ne_nil_of_status (h : t.status steps = .ok (.file old)) : steps ≠ [] := by
  rintro rfl
  cases h

/-- The name of a file and the way to its directory. -/
private theorem exists_name (h : steps ≠ []) : ∃ dir name, steps = dir ++ [name] := by
  rcases List.eq_nil_or_concat steps with rfl | ⟨dir, name, rfl⟩
  · exact absurd rfl h
  · exact ⟨dir, name, List.concat_eq_append⟩

/-- A file whose content has been changed can still be reached. -/
theorem status_edit {change : Bytes → Bytes} (h : t.edit steps change = .ok t') :
    ∃ content, t'.status steps = .ok (.file content) := by
  -- an edit writes the changed content, of nothing if there is no file
  have hwrite : ∃ content, t.write steps content = .ok t' := by
    unfold edit at h
    unfold write edit
    split at h
    next content _ => exact ⟨change content, h⟩
    next => cases h
    next => exact ⟨change [], h⟩
    next => cases h
  obtain ⟨content, hwrite⟩ := hwrite
  obtain ⟨-, -, hroot, -⟩ := eq_put_of_edit h
  obtain ⟨dir, name, rfl⟩ := exists_name hroot
  exact ⟨content, status_write hwrite⟩

/-- What is added to a file comes after its content. -/
theorem exists_append (h : t.status steps = .ok (.file old)) (added : Bytes) :
    ∃ t', t.append steps added = .ok t' ∧ t'.status steps = .ok (.file (old ++ added)) := by
  have hwrite : t.write steps (old ++ added) = .ok (t.put steps (.file (old ++ added))) := by
    simp only [write, edit, h]
  have happend : t.append steps added = .ok (t.put steps (.file (old ++ added))) := by
    simp only [append, edit, h]
  obtain ⟨dir, name, rfl⟩ := exists_name (ne_nil_of_status h)
  exact ⟨_, happend, status_write hwrite⟩

end Chronicle.FileTree
