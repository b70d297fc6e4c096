import Chronicle.Text.Split
import Mathlib.Data.List.Infix

/-!
# Taking texts apart

Parts that contain no separator, with one behind each of them, are what `split` finds again:
`split_flatMap`. `cut?` cuts a text at the first place where a separator of any length occurs;
`cut?_append_iff` says when that is the separator that was put there.
-/
namespace Chronicle.Text

/-! ### Parts that end with a separator -/

variable {sep : Char}

/-- There is one part more than there are separators. -/
theorem length_split (sep : Char) (cs : List Char) :
    (split sep cs).length = cs.count sep + 1 := by
  induction cs with
  | nil => rfl
  | cons c cs ih =>
    by_cases hc : c = sep
    · rw [split, if_pos hc, List.length_cons, ih, hc, List.count_cons_self]
    · rw [split, if_neg hc, List.count_cons_of_ne hc, ← ih]
      cases hs : split sep cs with
      | nil => exact absurd hs (split_ne_nil sep cs)
      | cons part parts => rfl

/-- A text without a separator is a single part. -/
theorem split_of_not_mem {cs : List Char} (h : sep ∉ cs) : split sep cs = [cs] := by
  have hlength : (split sep cs).length = 1 := by rw [length_split, List.count_eq_zero.2 h]
  obtain ⟨part, hpart⟩ := List.length_eq_one_iff.1 hlength
  -- joining the one part again gives the text
  have hjoin := join_split sep cs
  rw [hpart] at hjoin ⊢
  exact congrArg (fun p => [p]) hjoin

private theorem split_append_cons {part : List Char} (hpart : sep ∉ part) (rest : List Char) :
    split sep (part ++ sep :: rest) = part :: split sep rest := by
  induction part with
  | nil => rw [List.nil_append, split, if_pos rfl]
  | cons c part ih =>
    obtain ⟨hc, hpart⟩ := not_or.1 (List.mem_cons.not.1 hpart)
    rw [List.cons_append, split, if_neg (Ne.symm hc), ih hpart]

/-- Parts with a separator behind each of them are found again, with nothing behind the last one. -/
theorem split_flatMap {parts : List (List Char)} (hparts : ∀ part ∈ parts, sep ∉ part) :
    split sep (parts.flatMap (· ++ [sep])) = parts ++ [[]] := by
  induction parts with
  | nil => rfl
  | cons part parts ih =>
    obtain ⟨hpart, hparts⟩ := List.forall_mem_cons.1 hparts
    rw [List.flatMap_cons, List.append_assoc, List.singleton_append, split_append_cons hpart,
      ih hparts, List.cons_append]

/-! ### The first separator -/

/-- What stands before and after the first place where a separator occurs. -/
def cut? (sep : List Char) : List Char → Option (List Char × List Char)
  | [] => none
  | c :: t =>
    if sep.isPrefixOf (c :: t) then some ([], (c :: t).drop sep.length)
    else (cut? sep t).map fun found => (c :: found.1, found.2)

/-- A separator between two parts is the first one just if it does not occur in the first part, not
even together with its own beginning. -/
theorem cut?_append_iff {sep : List Char} (hsep : sep ≠ []) (k v : List Char) :
    cut? sep (k ++ (sep ++ v)) = some (k, v) ↔ ¬sep <:+: k ++ sep.dropLast := by
  have hshort : sep.dropLast.length < sep.length := by
    have := List.length_pos_of_ne_nil hsep
    rw [List.length_dropLast]
    omega
  induction k with
  -- the separator stands at the very start, and is found there
  | nil =>
    have hcut : cut? sep (sep ++ v) = some ([], v) := by
      obtain ⟨c, t, hct⟩ := List.exists_cons_of_ne_nil (List.append_ne_nil_of_left_ne_nil hsep v)
      rw [hct, cut?, ← hct, if_pos (List.isPrefixOf_iff_prefix.2 (List.prefix_append sep v)),
        List.drop_left]
    have hnot : ¬sep <:+: sep.dropLast := fun h => by
      have := h.length_le
      omega
    simp only [List.nil_append, hcut, hnot, not_false_eq_true]
  | cons c k ih =>
    -- whether the separator occurs at the very start is decided before its last character
    have hstart : sep <+: c :: (k ++ (sep ++ v)) ↔ sep <+: c :: (k ++ sep.dropLast) := by
      have hsplit : c :: (k ++ (sep ++ v))
          = (c :: (k ++ sep.dropLast)) ++ (sep.getLast hsep :: v) := by
        conv => lhs; rw [← List.dropLast_concat_getLast hsep]
        simp
      rw [hsplit]
      refine List.isPrefix_append_of_length ?_
      rw [List.length_cons, List.length_append, List.length_dropLast]
      omega
    -- it occurs here, or the search goes on behind the first character
    by_cases hpre : sep <+: c :: (k ++ (sep ++ v))
    · have hmatch := List.isPrefixOf_iff_prefix.2 hpre
      simp [cut?, hmatch, List.infix_cons_iff, ← hstart, hpre]
    · have hmatch : sep.isPrefixOf (c :: (k ++ (sep ++ v))) = false :=
        Bool.eq_false_iff.2 fun h => hpre (List.isPrefixOf_iff_prefix.1 h)
      simp [cut?, hmatch, List.infix_cons_iff, ← hstart, hpre, ← ih]

end Chronicle.Text
