/-!
# Texts in parts

`split sep` cuts a text at every separator, `join` puts parts together again; `join_split` says that
nothing is lost.
-/
namespace Chronicle.Text

/-- The parts of a text between separators; a text without one is a single part. -/
def split (sep : Char) : List Char → List (List Char)
  | [] => [[]]
  | c :: cs =>
    if c = sep then [] :: split sep cs
    else
      match split sep cs with
      | [] => [[c]]
      | part :: parts => (c :: part) :: parts

/-- Parts with a separator between each two. -/
def join (sep : List Char) : List (List Char) → List Char
  | [] => []
  | [part] => part
  | part :: parts => part ++ sep ++ join sep parts

theorem split_ne_nil (sep : Char) (cs : List Char) : split sep cs ≠ [] := by
  cases cs with
  | nil => simp [split]
  | cons c cs =>
    unfold split
    split
    · simp
    · split <;> simp

theorem join_split (sep : Char) (cs : List Char) : join [sep] (split sep cs) = cs := by
  induction cs with
  | nil => simp [split, join]
  | cons c cs ih =>
    have hne := split_ne_nil sep cs
    unfold split
    split
    -- a separator ends a part
    · rename_i h
      subst h
      generalize hs : split c cs = parts at ih hne
      cases parts with
      | nil => exact absurd rfl hne
      | cons part parts => simp [join, ih]
    -- any other character belongs to the part that follows it
    · generalize hs : split sep cs = parts at ih hne
      match parts, hne with
      | [part], _ => simpa [join] using ih
      | part :: p :: ps, _ => simpa [join] using ih

end Chronicle.Text
