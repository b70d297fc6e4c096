import Chronicle.Text.Lines
import Mathlib.Data.List.Basic

/-!
# The lines of a text

`HasLines` says what the physical lines of a text are: it consists of them and of their ends, and
only the last one may lack its end. `lines` finds them, and there are no others: `hasLines_lines`
and `HasLines.eq_lines`. A text whose last line ends with a line feed can be followed by any other
without a line changing: `lines_append`.
-/
namespace Chronicle.Text

/-- No line ends within these characters. -/
def Unbroken (line : List Char) : Prop :=
  '\n' ∉ line ∧ '\r' ∉ line

/-- The end of a line before what follows it. A carriage return that a line feed follows is not an
end by itself. -/
inductive EndsLine : List Char → List Char → Prop
  | lineFeed (rest : List Char) : EndsLine ['\n'] rest
  | both (rest : List Char) : EndsLine ['\r', '\n'] rest
  | carriageReturn {rest : List Char} (hrest : rest.head? ≠ some '\n') : EndsLine ['\r'] rest

/-- A text has these lines. -/
inductive HasLines : List Char → List (List Char) → Prop
  | nil : HasLines [] []
  | last {line : List Char} (hne : line ≠ []) (hline : Unbroken line) : HasLines line [line]
  | cons {line ending rest : List Char} {lines : List (List Char)} (hline : Unbroken line)
    (hending : EndsLine ending rest) (hrest : HasLines rest lines) :
    HasLines (line ++ (ending ++ rest)) (line :: lines)

private theorem unbroken_nil : Unbroken [] :=
  ⟨List.not_mem_nil, List.not_mem_nil⟩

private theorem unbroken_cons {c : Char} {line : List Char} :
    Unbroken (c :: line) ↔ c ≠ '\n' ∧ c ≠ '\r' ∧ Unbroken line := by
  simp only [Unbroken, List.mem_cons, not_or, ne_comm (a := c)]
  exact and_and_and_comm.trans and_assoc

/-! ### Finding lines -/

/-- A character that is no end belongs to the first line. -/
private theorem lines_cons {c : Char} (hn : c ≠ '\n') (hr : c ≠ '\r') (t : List Char) :
    lines (c :: t) = match lines t with
      | [] => [[c]]
      | l :: ls => (c :: l) :: ls := by
  have hpair : ∀ rest, c = '\r' → t = '\n' :: rest → False := fun _ h _ => hr h
  exact (lines.eq_3 c t hpair).trans (if_neg (not_or.2 ⟨hn, hr⟩))

private theorem lines_of_unbroken {line : List Char} (hne : line ≠ []) (hline : Unbroken line) :
    lines line = [line] := by
  induction line with
  | nil => exact absurd rfl hne
  | cons c line ih =>
    obtain ⟨hn, hr, hline⟩ := unbroken_cons.1 hline
    rw [lines_cons hn hr]
    cases line with
    | nil => rfl
    | cons d line => rw [ih (List.cons_ne_nil _ _) hline]

private theorem lines_ending {ending rest : List Char} (h : EndsLine ending rest) :
    lines (ending ++ rest) = [] :: lines rest := by
  cases h with
  | lineFeed =>
    rw [List.singleton_append, lines, if_pos (.inl rfl)]
    exact fun _ h => absurd h (by decide)
  | both => rfl
  | carriageReturn hrest =>
    rw [List.singleton_append, lines, if_pos (.inr rfl)]
    rintro t - rfl
    exact hrest rfl

private theorem lines_append_ending {line ending rest : List Char} (hline : Unbroken line)
    (h : EndsLine ending rest) : lines (line ++ (ending ++ rest)) = line :: lines rest := by
  induction line with
  | nil => exact lines_ending h
  | cons c line ih =>
    obtain ⟨hn, hr, hline⟩ := unbroken_cons.1 hline
    rw [List.cons_append, lines_cons hn hr, ih hline]

theorem HasLines.eq_lines {text : List Char} {ls : List (List Char)} (h : HasLines text ls) :
    ls = lines text := by
  induction h with
  | nil => rfl
  | last hne hline => exact (lines_of_unbroken hne hline).symm
  | cons hline hending _ ih => rw [lines_append_ending hline hending, ih]

private theorem HasLines.cons_of_unbroken {c : Char} (hn : c ≠ '\n') (hr : c ≠ '\r') {t : List Char}
    (h : HasLines t (lines t)) : HasLines (c :: t) (lines (c :: t)) := by
  rw [lines_cons hn hr]
  generalize lines t = ls at h
  cases h with
  | nil => exact .last (List.cons_ne_nil _ _) (unbroken_cons.2 ⟨hn, hr, unbroken_nil⟩)
  | last hne hline => exact .last (List.cons_ne_nil _ _) (unbroken_cons.2 ⟨hn, hr, hline⟩)
  | cons hline hending hrest => exact .cons (unbroken_cons.2 ⟨hn, hr, hline⟩) hending hrest

theorem hasLines_lines (text : List Char) : HasLines text (lines text) := by
  fun_induction lines text with
  | case1 => exact .nil
  -- a carriage return and a line feed are one ending
  | case2 t ih => exact .cons unbroken_nil (.both t) ih
  | case3 c t hcrlf hc ih =>
    rcases hc with rfl | rfl
    · exact .cons unbroken_nil (.lineFeed t) ih
    · refine .cons unbroken_nil (.carriageReturn fun hhead => ?_) ih
      obtain ⟨t', rfl⟩ := List.head?_eq_some_iff.1 hhead
      exact hcrlf t' rfl rfl
  -- any other character belongs to the line that follows it
  | case4 c t hcrlf hc hnil ih =>
    obtain ⟨hn, hr⟩ := not_or.1 hc
    have h := HasLines.cons_of_unbroken hn hr ih
    rwa [lines_cons hn hr, hnil] at h
  | case5 c t hcrlf hc l ls hcons ih =>
    obtain ⟨hn, hr⟩ := not_or.1 hc
    have h := HasLines.cons_of_unbroken hn hr ih
    rwa [lines_cons hn hr, hcons] at h

/-! ### One text after another -/

/-- After a line feed a new line begins, whatever follows. -/
theorem lines_append {text : List Char} (h : text.getLast? = some '\n') (more : List Char) :
    lines (text ++ more) = lines text ++ lines more := by
  have hlines := hasLines_lines text
  generalize lines text = ls at hlines ⊢
  induction hlines with
  | nil => cases h
  | last _ hline => exact absurd (List.mem_of_getLast? h) hline.1
  | @cons line ending rest ls hline hending hrest ih =>
    by_cases hnil : rest = []
    · -- the line feed ends the last line, so its end does not depend on what follows
      subst hnil
      obtain rfl : ls = [] := hrest.eq_lines
      have hending' : EndsLine ending more := by
        cases hending with
        | lineFeed => exact .lineFeed more
        | both => exact .both more
        | carriageReturn => simp at h
      rw [List.append_nil, List.append_assoc, lines_append_ending hline hending']
      rfl
    -- the text ends further on, so its end is that of the rest
    · have hlast : rest.getLast? = some '\n' := by
        rwa [List.getLast?_append_of_ne_nil _ (List.append_ne_nil_of_right_ne_nil _ hnil),
          List.getLast?_append_of_ne_nil _ hnil] at h
      have hending' : EndsLine ending (rest ++ more) := by
        cases hending with
        | lineFeed => exact .lineFeed _
        | both => exact .both _
        | carriageReturn hhead =>
          refine .carriageReturn ?_
          rwa [List.head?_append_of_ne_nil _ hnil]
      rw [List.append_assoc, List.append_assoc, lines_append_ending hline hending', ih hlast]
      rfl

/-- A line's end of either kind, a blank line, and a last line that has no end. -/
example : lines ['a', '\r', '\n', '\r', '\n', 'b', '\r', 'c'] = [['a'], [], ['b'], ['c']] := by
  decide

end Chronicle.Text
