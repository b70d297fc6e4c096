import Chronicle.File.Tree

/-!
# Files in a directory

What is at a place depends on what is at the places on the way to it. So a file that is written into
a directory is found there, and the other files of the directory stay as they are.
-/
namespace Chronicle

namespace FileTree

variable {t : FileTree} {steps : List String} {node : FileNode} {name : String} {content : Bytes}

theorem find?_put_self (hsteps : steps ≠ []) : (t.put steps node).find? steps = some node := by
  have hempty : steps.isEmpty = false := by simpa using hsteps
  simp only [find?, put, hempty, List.lookup_cons_self]
  rfl

theorem find?_put_of_ne {place : List String} (hne : place ≠ steps) :
    (t.put steps node).find? place = t.find? place := by
  -- what is taken out is under the path that is not asked for
  have hlookup : ∀ entries : List (List String × FileNode),
      (entries.filter (·.1 != steps)).lookup place = entries.lookup place := by
    intro entries
    induction entries with
    | nil => rfl
    | cons e rest ih =>
      obtain ⟨p, n⟩ := e
      by_cases heq : p = steps
      · have hp : (place == p) = false := by simpa [heq] using hne
        simpa [List.filter_cons, heq, List.lookup_cons, heq ▸ hp] using ih
      · by_cases hpp : place = p <;> simp [heq, List.lookup_cons, hpp, ih]
  have hhead : (place == steps) = false := by simpa using hne
  simp only [find?, put, List.lookup_cons, hhead, hlookup]

/-- Where a walk ends is decided by what is on the way. -/
private theorem walk_congr {t' : FileTree} {done rest : List String}
    (h : ∀ place, done <+: place → place <+: done ++ rest → t.find? place = t'.find? place) :
    t.walk done rest = t'.walk done rest := by
  induction rest generalizing done with
  | nil => rw [walk, walk, h done (List.prefix_refl _) (List.prefix_append _ _)]
  | cons name rest ih =>
    have hnext : t.walk (done ++ [name]) rest = t'.walk (done ++ [name]) rest := by
      refine ih fun place hdone hplace => h place ((List.prefix_append _ _).trans hdone) ?_
      rwa [List.append_assoc] at hplace
    rw [walk, walk, h done (List.prefix_refl _) (List.prefix_append _ _), hnext]

private theorem status_congr {t' : FileTree}
    (h : ∀ place, place <+: steps → t.find? place = t'.find? place) :
    t.status steps = t'.status steps :=
  walk_congr fun place _ hplace => h place hplace

/-- What is put somewhere does not show at a place that it is not on the way to. -/
private theorem status_put_elsewhere {place : List String} (h : ¬steps <+: place) :
    (t.put steps node).status place = t.status place :=
  status_congr fun _ hp => find?_put_of_ne fun heq => h (heq ▸ hp)

/-- What is at the end of a walk that goes one step further. -/
def enter (t : FileTree) (place : List String) : Except Obstacle FileNode → Except Obstacle FileNode
  | .ok .directory =>
    match t.find? place with
    | some node => .ok node
    | none => .error .absent
  | .ok (.file _) => .error .notDirectory
  | .error o => .error o

private theorem walk_snoc (t : FileTree) (done rest : List String) (name : String) :
    t.walk done (rest ++ [name]) = t.enter (done ++ rest ++ [name]) (t.walk done rest) := by
  induction rest generalizing done with
  | nil =>
    simp only [List.nil_append, List.append_nil, walk]
    cases t.find? done with
    | none => rfl
    | some node => cases node <;> rfl
  | cons step rest ih =>
    rw [List.cons_append, walk, walk]
    cases t.find? done with
    | none => rfl
    | some node =>
      -- a file on the way stops the walk at once
      cases node with
      | file => rfl
      | directory => simpa using ih (done ++ [step])

theorem status_snoc (t : FileTree) (steps : List String) (name : String) :
    t.status (steps ++ [name]) = t.enter (steps ++ [name]) (t.status steps) :=
  walk_snoc t [] steps name

theorem read_of_status (h : t.status steps = .ok (.file content)) :
    t.read steps = .ok content := by
  rw [read, h]

/-! ### Writing into a directory -/

variable {t' : FileTree} {dir : List String}

/-- Nothing can be written into what is no directory. -/
private theorem eq_put_of_write (h : t.write (dir ++ [name]) content = .ok t') :
    t.status dir = .ok .directory ∧ t' = t.put (dir ++ [name]) (.file content) := by
  have hsnoc := t.status_snoc dir name
  simp only [write, edit] at h
  cases hstatus : t.status (dir ++ [name]) with
  | ok node =>
    -- what is reached by way of `dir` shows that `dir` is a directory
    have hdir : t.status dir = .ok .directory := by
      rw [hstatus] at hsnoc
      rcases hs : t.status dir with o | node'
      · rw [hs] at hsnoc
        cases hsnoc
      · cases node' with
        | file =>
          rw [hs] at hsnoc
          cases hsnoc
        | directory => rfl
    rw [hstatus] at h
    cases node with
    | file =>
      cases h
      exact ⟨hdir, rfl⟩
    | directory => cases h
  | error o =>
    rw [hstatus] at h
    cases o with
    | absent =>
      -- a new file needs a directory to be in
      by_cases hroom : t.hasRoom (dir ++ [name]) = true
      · simp only [hroom, if_true] at h
        cases h
        rw [hasRoom, List.dropLast_concat] at hroom
        split at hroom
        · exact ⟨‹_›, rfl⟩
        · cases hroom
      · simp only [hroom] at h
        cases h
    | present | notDirectory | directory => cases h

private theorem not_append_prefix_self (name : String) : ¬dir ++ [name] <+: dir := by
  intro h
  have hlength := h.length_le
  rw [List.length_append, List.length_singleton] at hlength
  omega

/-- The directory is still there. -/
theorem status_write_dir (h : t.write (dir ++ [name]) content = .ok t') :
    t'.status dir = .ok .directory := by
  obtain ⟨hdir, rfl⟩ := eq_put_of_write h
  rw [status_put_elsewhere (not_append_prefix_self name), hdir]

/-- What is written is found. -/
theorem status_write (h : t.write (dir ++ [name]) content = .ok t') :
    t'.status (dir ++ [name]) = .ok (.file content) := by
  have hdir := status_write_dir h
  obtain ⟨-, rfl⟩ := eq_put_of_write h
  rw [status_snoc, hdir, enter, find?_put_self (by simp)]

/-- The other places of the directory stay as they are. -/
theorem status_write_of_ne (h : t.write (dir ++ [name]) content = .ok t') {other : String}
    (hne : other ≠ name) : t'.status (dir ++ [other]) = t.status (dir ++ [other]) := by
  obtain ⟨-, rfl⟩ := eq_put_of_write h
  refine status_put_elsewhere fun hway => hne ?_
  have heq := hway.eq_of_length (by simp)
  simpa using heq.symm

/-- In a directory everything can be written that is no directory itself. -/
theorem exists_write (hdir : t.status dir = .ok .directory)
    (hfile : t.status (dir ++ [name]) ≠ .ok .directory) (content : Bytes) :
    ∃ t', t.write (dir ++ [name]) content = .ok t' := by
  have hsnoc := t.status_snoc dir name
  rw [hdir, enter] at hsnoc
  have hroom : t.hasRoom (dir ++ [name]) = true := by
    rw [hasRoom, List.dropLast_concat, hdir]
  -- the file is new, or is there and written over
  cases hfind : t.find? (dir ++ [name]) with
  | none =>
    rw [hfind] at hsnoc
    exact ⟨_, by simp only [write, edit, hsnoc, hroom]; rfl⟩
  | some node =>
    rw [hfind] at hsnoc
    cases node with
    | file => exact ⟨_, by simp only [write, edit, hsnoc]; rfl⟩
    | directory => exact absurd hsnoc hfile

/-- There is a directory at a place, and nothing in it. -/
structure IsEmptyDirectory (t : FileTree) (dir : List String) : Prop where
  directory : t.status dir = .ok .directory
  empty : ∀ name, t.status (dir ++ [name]) = .error .absent

/-- A directory that is made in the empty tree is empty. -/
theorem isEmptyDirectory_fill (dir : String) :
    (({} : FileTree).fill [dir]).IsEmptyDirectory [dir] := by
  have hfill : ({} : FileTree).fill [dir] = ⟨[([dir], .directory)]⟩ := rfl
  rw [hfill]
  refine ⟨by simp [status, walk, find?], fun name => ?_⟩
  have hne : ([dir, name] == [dir]) = false := by simp
  simp [status, walk, find?, List.lookup_cons]

end FileTree

/-- The place of a file in a directory. -/
theorem Path.steps_child (root : Path) {name : String} (hname : name ≠ "..") :
    (root.child name).steps = root.steps ++ [name] := by
  have hchild : (root.child name).steps = step root.steps name := List.foldl_append
  rw [hchild, step, if_neg hname]

end Chronicle
