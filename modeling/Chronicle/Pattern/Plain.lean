import Chronicle.Pattern.Reader

/-!
# Patterns of plain words

A text without special characters is read as the pattern that matches this text:
`Pattern.ofText_of_all_isPlain`.
-/
namespace Chronicle.Pattern

/-- Whether a character stands for itself wherever it stands outside of a class. -/
def isPlain (c : Char) : Bool :=
  !(['\\', '[', '.', '^', '$', '(', ')', '?', '*', '+', '{', '|'].contains c)

namespace Reading

variable {c : Char} {text : List Char} {cursor : Cursor}

/-- A plain character is a token of its own. -/
private theorem tokenOf_of_isPlain (hc : isPlain c = true) (text : List Char) :
    tokenOf (c :: text) = some [c] := by
  have hne : c ≠ '\\' := by
    rintro rfl
    exact absurd hc (by decide)
  simp [tokenOf, hne]

/-- The next token of a plain text is its first character. -/
private theorem run_next_of_isPlain (hc : isPlain c = true) (htext : text.all isPlain = true)
    (hrest : cursor.rest = c :: text) :
    next.run cursor = pure (some [c],
      { cursor with rest := text, position := cursor.position + 1 }) := by
  -- a text that is left with a single backslash would stop here
  have hne : text ≠ ['\\'] := by
    rintro rfl
    exact absurd htext (by decide)
  simp only [next, peek, skip, StateT.run_bind, StateT.run_get, StateT.run_modify, StateT.run_pure,
    pure_bind, hrest, tokenOf_of_isPlain hc, Option.elim_some, List.length_singleton,
    List.drop_one, List.tail_cons, hne, if_false]

/-- Nothing is accepted at the end of a text. -/
private theorem run_accept_of_rest_eq_nil (hrest : cursor.rest = []) (c : Char) :
    (accept c).run cursor = pure (false, cursor) := by
  simp only [accept, peek, StateT.run_bind, StateT.run_get, StateT.run_pure, pure_bind, hrest,
    tokenOf, reduceCtorEq, if_false]

/-- A plain character is read as itself. -/
private theorem run_sequence_of_isPlain (hc : isPlain c = true) (htext : text.all isPlain = true)
    (hrest : cursor.rest = c :: text) (hflags : cursor.flags.contains .verbose = false)
    (bound : Nat) (isStart : Bool) (items : List Item) :
    (sequence (bound + 1) [] isStart items).run cursor
      = (sequence bound [] isStart (⟨cursor.flags.literal c.toNat, .other⟩ :: items)).run
          { cursor with rest := text, position := cursor.position + 1 } := by
  have hnext := run_next_of_isPlain hc htext hrest
  have htoken := tokenOf_of_isPlain hc text
  simp only [isPlain, List.contains_cons, List.contains_nil, Bool.not_or, Bool.and_eq_true,
    Bool.not_eq_true', beq_eq_false_iff_ne] at hc
  -- a closing parenthesis or a bar would end the sequence before the character is taken
  obtain ⟨-, -, -, -, -, -, hclose, -, -, -, -, hbar, -⟩ := id hc
  rw [sequence]
  simp only [flagsIn, position, peek, StateT.run_bind, StateT.run_get, pure_bind, List.foldl_nil,
    StateT.run_pure, hrest, htoken, hflags, List.cons.injEq, and_true, hclose, hbar, decide_false,
    Bool.or_false, Bool.false_eq_true, if_false, hnext, Bool.false_and, List.headD_cons]
  -- every special character is ruled out, so only the last branch is left
  split <;> simp_all only [ne_eq, not_true_eq_false, false_and, and_false]
  rfl

/-- A plain text is read as the sequence of its characters, by induction on the text. -/
private theorem run_sequence_of_all_isPlain (htext : text.all isPlain = true)
    (hrest : cursor.rest = text) (hflags : cursor.flags.contains .verbose = false) {bound : Nat}
    (hbound : text.length < bound) (isStart : Bool) (items : List Item) :
    (sequence bound [] isStart items).run cursor
      = pure ((text.map fun c => ⟨cursor.flags.literal c.toNat, .other⟩).reverse ++ items,
          { cursor with rest := [], position := cursor.position + text.length }) := by
  induction text generalizing cursor bound items with
  | nil =>
    obtain ⟨bound, rfl⟩ := Nat.exists_eq_add_one_of_ne_zero (Nat.ne_zero_of_lt hbound)
    rw [sequence]
    simp only [flagsIn, position, peek, StateT.run_bind, StateT.run_get, pure_bind,
      StateT.run_pure, hrest, tokenOf]
    cases cursor
    cases hrest
    rfl
  -- one character is taken, and the bound stays larger than what is left
  | cons c text ih =>
    rw [List.all_cons, Bool.and_eq_true] at htext
    rw [List.length_cons] at hbound
    obtain ⟨bound, rfl⟩ := Nat.exists_eq_add_one_of_ne_zero (Nat.ne_zero_of_lt hbound)
    have hbound : text.length < bound := Nat.lt_of_add_lt_add_right hbound
    rw [run_sequence_of_isPlain htext.1 htext.2 hrest hflags]
    refine (ih htext.2 ?_ ?_ hbound _).trans ?_
    · rfl
    · exact hflags
    · simp [Nat.add_assoc, Nat.add_comm 1]

/-- A plain text is a single alternative. -/
private theorem run_alternatives_of_all_isPlain (htext : text.all isPlain = true)
    (hrest : cursor.rest = text) (hflags : cursor.flags.contains .verbose = false) {bound : Nat}
    (hbound : text.length + 1 < bound) (isStart : Bool) :
    (alternatives bound [] isStart).run cursor
      = pure (Node.sequence (text.map fun c => cursor.flags.literal c.toNat),
          { cursor with rest := [], position := cursor.position + text.length }) := by
  obtain ⟨bound, rfl⟩ := Nat.exists_eq_add_one_of_ne_zero (Nat.ne_zero_of_lt hbound)
  have hbound : text.length < bound := Nat.lt_of_add_lt_add_right hbound
  rw [alternatives, StateT.run_bind,
    run_sequence_of_all_isPlain htext hrest hflags hbound, pure_bind, StateT.run_bind,
    run_accept_of_rest_eq_nil rfl, pure_bind]
  simp [Function.comp_def]

/-- A sequence of single characters has no faults. -/
private theorem fault?_sequence_literal (flags : Flags) (isTemplate : Bool) (text : List Char) :
    (Node.sequence (text.map fun c => flags.literal c.toNat)).fault? isTemplate = none := by
  induction text with
  | nil => rfl
  | cons c text ih =>
    -- a sequence of one node is that node, so it is a case of its own
    cases text with
    | nil => rfl
    | cons d text =>
      simp only [List.map_cons] at ih ⊢
      rw [Node.sequence, Node.fault?, ih]
      · rfl
      · nofun

/-- A plain text is a whole pattern, the sequence of its characters. -/
private theorem run_wholePattern_of_all_isPlain (htext : text.all isPlain = true)
    (names : Text.CharacterNames) :
    wholePattern.run { rest := text, characters := names, flags := [.ignoreCase] }
      = pure (Node.sequence (text.map fun c => Flags.literal [.ignoreCase] c.toNat), {
          rest := [], characters := names, position := text.length, flags := [.ignoreCase] }) := by
  rw [wholePattern, StateT.run_bind, StateT.run_get, pure_bind, StateT.run_bind,
    run_alternatives_of_all_isPlain htext rfl rfl (by simp only; omega), pure_bind]
  simp [fault?_sequence_literal]

end Reading

/-- A text without special characters is the pattern that matches it. -/
theorem ofText_of_all_isPlain (names : Text.CharacterNames) {s : String}
    (hs : s.toList.all isPlain = true) : ofText names s = .ok (ofWords s) := by
  have hne : s.toList ≠ ['\\'] := by
    intro heq
    rw [heq] at hs
    exact absurd hs (by decide)
  rw [ofText, Node.ofText, if_neg hne, Reading.run_wholePattern_of_all_isPlain hs]
  rfl

end Chronicle.Pattern
