import Chronicle.Pattern.Reader
import Chronicle.Proofs.Upholds

/-!
# Patterns that repeat something too often

Reading a pattern stops because something is repeated too often only if there is a number that large
in its text: `Pattern.hasHugeNumber_of_ofText`. Every step of reading leaves an end of the text
behind, so the digits that count rounds stand in the text.
-/
namespace Chronicle.Pattern

/-- There is a number in a text that is too large to count rounds. -/
def HasHugeNumber (text : List Char) : Prop :=
  ∃ digits, digits <:+: text ∧ digits.all Char.isDigit ∧ 0xffffffff ≤ Decimal.ofDigits digits

namespace Reading

/-- Of a text, an end is left to be read, and rounds are too many only if the text says so. -/
abbrev Counts {α : Type} (text : List Char) (act : Reading α) : Prop :=
  Upholds (fun c : Cursor => c.rest <:+ text) (fun f => f = .hugeRepeat → HasHugeNumber text) act

variable {α : Type} {text : List Char}

/-! ### Tokens -/

/-- A fault with a place is none of the number of rounds. -/
private theorem counts_failAt (position : Nat) (what : PatternFlaw) :
    Counts text (failAt position what : Reading α) :=
  .throw nofun

/-- A fault some characters back is none of the number of rounds. -/
private theorem counts_fail (what : PatternFlaw) (back : Nat) :
    Counts text (fail what back : Reading α) :=
  .get fun _ _ => counts_failAt _ _

private theorem counts_position : Counts text position :=
  .get fun _ _ => .pure _

private theorem counts_peek : Counts text peek :=
  .get fun _ _ => .pure _

/-- What is left after some characters have been skipped is still an end of the text. -/
private theorem counts_skip (count : Nat) : Counts text (skip count) := by
  refine .bind (.change fun c hc => (List.drop_suffix count c.rest).trans hc) fun _ => ?_
  exact .get fun _ _ => .ite (counts_failAt _ _) (.pure _)

/-- The next token is skipped, so an end of the text is left. -/
private theorem counts_next : Counts text next :=
  .bind counts_peek fun _ => .bind (counts_skip _) fun _ => .pure _

private theorem counts_accept (c : Char) : Counts text (accept c) :=
  .bind counts_peek fun _ => .ite (.bind (counts_skip _) fun _ => .pure _) (.pure _)

/-- What is taken is skipped as well. -/
private theorem counts_takeUpTo (count : Nat) (p : Char → Bool) : Counts text (takeUpTo count p) :=
  .get fun _ _ => .bind (counts_skip _) fun _ => .pure _

private theorem counts_takeAll (p : Char → Bool) : Counts text (takeAll p) :=
  .get fun _ _ => counts_takeUpTo _ p

/-- What is taken stands in the text. -/
private theorem infix_of_takeAll {p : Char → Bool} {c c' : Cursor} {found : List Char}
    (hc : c.rest <:+ text) (h : takeAll p c = .ok (found, c')) :
    found <:+: text ∧ found.all p := by
  -- taking is skipping as many characters as there are to be taken
  have hrun : takeAll p c = skip ((c.rest.take c.rest.length).takeWhile p).length c
      >>= fun r => .ok ((c.rest.take c.rest.length).takeWhile p, r.2) := rfl
  have hstands : (c.rest.take c.rest.length).takeWhile p <:+: text :=
    ((List.takeWhile_prefix p).trans (List.take_prefix _ _)).isInfix.trans hc.isInfix
  have hall : ((c.rest.take c.rest.length).takeWhile p).all p := List.all_takeWhile
  -- what else is true of them does not matter
  generalize (c.rest.take c.rest.length).takeWhile p = taken at hrun hstands hall
  rw [hrun] at h
  cases hskip : skip taken.length c with
  | error f =>
    rw [hskip] at h
    cases h
  | ok r =>
    rw [hskip] at h
    cases h
    exact ⟨hstands, hall⟩

/-- A name up to its end, by induction on the characters that may be left. -/
private theorem counts_nameUntil (terminator : Char) (what : String) (bound : Nat)
    (name : List Char) :
    Counts text (nameUntil terminator what bound name) := by
  induction bound generalizing name with
  | zero => exact counts_fail _ _
  | succ bound ih =>
    rw [nameUntil]
    refine .bind counts_next fun _ => ?_
    split
    next => exact .ite (counts_fail _ _) (counts_fail _ _)
    next => exact .ite (.ite (counts_fail _ _) (.pure _)) (ih _)

private theorem counts_name (terminator : Char) (what : String) :
    Counts text (name terminator what) :=
  .get fun _ _ => counts_nameUntil _ _ _ _

/-! ### Groups -/

private theorem counts_nextGroup : Counts text nextGroup :=
  .get fun _ _ => .pure _

private theorem counts_isClosed (number : Nat) : Counts text (isClosed number) :=
  .get fun _ _ => .pure _

/-- Opening a group fails if its name is in use, or if there are too many groups. -/
private theorem counts_openGroup (name : Option String) : Counts text (openGroup name) := by
  refine .bind counts_nextGroup fun _ => ?_
  split
  next => exact .bind (.change fun _ h => h) fun _ => .pure _
  next =>
    refine .get fun _ _ => ?_
    split
    next => exact .bind (counts_fail _ _) fun _ => .bind (.change fun _ h => h) fun _ => .pure _
    next =>
      exact .bind (.change fun _ h => h) fun _ => .bind (.change fun _ h => h) fun _ => .pure _

private theorem counts_closeGroup (number : Nat) (body : Node) :
    Counts text (closeGroup number body) :=
  .change fun _ h => h

/-- A group that is still open cannot be looked for while looking back. -/
private theorem counts_checkLook (number : Nat) : Counts text (checkLook number) := by
  refine .get fun _ _ => ?_
  split
  next => exact .pure _
  next =>
    refine .bind (counts_isClosed _) fun _ => .guarded (counts_fail _ _) ?_
    exact .ite (counts_fail _ _) (.pure _)

/-! ### Escapes -/

private theorem counts_hexCode (letter : Char) (count : Nat) : Counts text (hexCode letter count) :=
  .bind (counts_takeUpTo _ _) fun _ => .guarded (counts_fail _ _)
    (.guarded (counts_fail _ _) (.pure _))

/-- A character by its name: the name is read and then looked up. -/
private theorem counts_namedCode : Counts text namedCode := by
  refine .bind (counts_accept _) fun _ => .guarded (counts_fail _ _) ?_
  refine .bind (counts_name _ _) fun _ => .get fun _ _ => ?_
  split
  next => exact .pure _
  next => exact counts_fail _ _

/-- A character by its code or name, if the letter after the backslash calls for one. -/
private theorem counts_writtenCode? (letter : Char) : Counts text (writtenCode? letter) := by
  rw [writtenCode?.eq_def]
  split
  next => exact .bind (counts_hexCode _ _) fun _ => .pure _
  next => exact .bind (counts_hexCode _ _) fun _ => .pure _
  next => exact .bind (counts_hexCode _ _) fun _ => .pure _
  next => exact .bind counts_namedCode fun _ => .pure _
  next => exact .pure _

/-- A letter that means nothing after a backslash is a fault. -/
private theorem counts_escapedSelf (c : Char) : Counts text (escapedSelf c) := by
  rw [escapedSelf]
  exact .ite (.bind (counts_fail _ _) fun _ => .pure _) (.pure _)

/-- An octal code must not be too large. -/
private theorem counts_octalCode (digits : List Char) : Counts text (octalCode digits) := by
  rw [octalCode]
  exact .ite (.bind (counts_fail _ _) fun _ => .pure _) (.pure _)

/-- An escape within brackets. -/
private theorem counts_classEscape (c : Char) : Counts text (classEscape c) := by
  rw [classEscape]
  split
  next => exact .pure _
  next => exact .pure _
  next =>
    refine .ite ?_ ?_
    · exact .bind (counts_takeUpTo _ _) fun _ => .bind (counts_octalCode _) fun _ => .pure _
    -- a code point that is written out, or else the character itself
    · refine .bind (counts_writtenCode? c) fun _ => ?_
      split
      next => exact .pure _
      next => exact .bind (counts_escapedSelf c) fun _ => .pure _

/-- A group that is referred to by its number must be there and closed. -/
private theorem counts_groupByNumber (flags : Flags) (digits : List Char) :
    Counts text (groupByNumber flags digits) := by
  refine .get fun _ _ => .guarded (counts_fail _ _) (.bind (counts_isClosed _) fun _ => ?_)
  exact .guarded (counts_fail _ _) (.bind (counts_checkLook _) fun _ => .pure _)

/-- Digits after a backslash are an octal code or the number of a group. -/
private theorem counts_numberEscape (flags : Flags) (first : Char) :
    Counts text (numberEscape flags first) := by
  refine .bind (counts_takeUpTo _ _) fun _ => .ite ?_ (counts_groupByNumber _ _)
  refine .bind (counts_takeUpTo _ _) fun _ => .ite ?_ (counts_groupByNumber _ _)
  exact .bind (counts_octalCode _) fun _ => .pure _

/-- An escape outside of brackets: a place, a class, digits, a code, or the character itself. -/
private theorem counts_escape (flags : Flags) (c : Char) : Counts text (escape flags c) := by
  rw [escape]
  split
  next => exact .pure _
  next => exact .pure _
  next => exact .pure _
  next =>
    -- an octal code after a zero, then the other digits, then all the rest
    refine .ite (.bind (counts_takeUpTo _ _) fun _ => .pure _) (.ite ?_ ?_)
    · exact counts_numberEscape _ _
    · refine .bind (counts_writtenCode? c) fun _ => ?_
      split
      next => exact .pure _
      next => exact .bind (counts_escapedSelf c) fun _ => .pure _

/-! ### Classes -/

private theorem counts_flagsIn (scope : Scope) : Counts text (flagsIn scope) :=
  .get fun _ _ => .pure _

/-- One character or class within brackets. -/
private theorem counts_classToken (token : Token) : Counts text (classToken token) := by
  rw [classToken.eq_def]
  split
  next => exact counts_classEscape _
  next => exact .pure _
  next => exact .pure _

/-- The members of a class, by induction on the characters that may be left. -/
private theorem counts_classMembers (ascii : Bool) (start bound : Nat)
    (members : List ClassMember) :
    Counts text (classMembers ascii start bound members) := by
  induction bound generalizing members with
  | zero => exact counts_failAt _ _
  | succ bound ih =>
    rw [classMembers]
    refine .bind counts_next fun _ => ?_
    split
    next => exact counts_failAt _ _
    next =>
      refine .ite (.pure _) (.bind (counts_classToken _) fun _ => ?_)
      -- a dash makes a range, unless the bracket closes right after it
      refine .bind (counts_accept _) fun _ => .ite (.bind counts_next fun _ => ?_) (ih _)
      split
      next => exact counts_failAt _ _
      next =>
        refine .ite (.pure _) (.bind (counts_classToken _) fun _ => ?_)
        split
        -- the ends of a range must be in order, and both must be characters
        next => exact .ite (counts_fail _ _) (ih _)
        next => exact counts_fail _ _

private theorem counts_charClass (flags : Flags) (start : Nat) :
    Counts text (charClass flags start) :=
  .bind (counts_accept _) fun _ => .get fun _ _ =>
    .bind (counts_classMembers _ _ _ _) fun _ => .pure _

/-! ### Repetitions -/

/-- Digits that stand in the text make a number that is too large only if the text has one. -/
private theorem counts_rounds {digits : List Char}
    (hdigits : digits <:+: text ∧ digits.all Char.isDigit) :
    Counts text (rounds digits) := by
  rw [rounds]
  refine .guarded (.throw nofun) ?_
  dsimp only
  split
  next hhuge => exact .bind (.throw fun _ => ⟨digits, hdigits.1, hdigits.2, hhuge⟩) fun _ => .pure _
  next => exact .pure _

/-- The bounds of a repetition: both are counted from digits of the text. -/
private theorem counts_bounds? (c : Char) : Counts text (bounds? c) := by
  rw [bounds?.eq_def]
  split
  next => exact .pure _
  next => exact .pure _
  next => exact .pure _
  next =>
    -- the position before the brace is kept, for a brace may stand for itself
    refine .get fun before hbefore => .bind counts_peek fun _ => .ite (.pure _) ?_
    -- what is counted are digits of the text
    refine .bindWith (counts_takeAll _) fun c hc low c' hlow => ?_
    replace hlow := infix_of_takeAll hc hlow
    -- the second bound is read or the same as the first one
    refine .bind (counts_accept _) fun _ => .ite
      (.bindWith (counts_takeAll _) fun c hc high c' hhigh => ?_)
      (.bindWith (.pure low) fun c hc high c' hhigh => ?_)
    case' refine_1 => replace hhigh := infix_of_takeAll hc hhigh
    case' refine_2 =>
      cases hhigh
      have hhigh := hlow
    all_goals
      -- without a closing brace the reading goes back
      refine .bind (counts_accept _) fun _ => .ite (.bind (.set hbefore) fun _ => .pure _) ?_
      -- an absent lower bound is zero
      refine .ite (.bind (.pure _) fun _ => ?_) (.bind (counts_rounds hlow) fun _ => ?_)
      all_goals
        refine .ite (.pure _) (.bind (counts_rounds hhigh) fun _ => ?_)
        exact .ite (.bind (counts_failAt _ _) fun _ => .pure _) (.pure _)

private theorem counts_greed : Counts text greed :=
  .bind (counts_accept _) fun _ => .ite (.pure _)
    (.bind (counts_accept _) fun _ => .ite (.pure _) (.pure _))

/-- A repetition needs something to repeat, and not a repetition. -/
private theorem counts_repeatLast (start : Nat) (bounds : Nat × Option Nat) (items : List Item) :
    Counts text (repeatLast start bounds items) := by
  rw [repeatLast.eq_def]
  split
  next => exact counts_failAt _ _
  next =>
    split
    next => exact counts_failAt _ _
    next => exact counts_failAt _ _
    next => exact .bind counts_greed fun _ => .pure _

/-! ### Flags -/

/-- What stands in the place of a flag is an unknown flag or the end of the text. -/
private theorem counts_noFlag (token : Token) (wanted : String) :
    Counts text (noFlag token wanted : Reading α) := by
  rw [noFlag.eq_def]
  split
  next => exact .ite (counts_fail _ _) (counts_fail _ _)
  next => exact counts_fail _ _

/-- The flags that are set, by induction on the characters that may be left. -/
private theorem counts_flagsOn (bound : Nat) (flag : Flag) (flags : Flags) :
    Counts text (flagsOn bound flag flags) := by
  induction bound generalizing flag flags with
  | zero => exact counts_fail _ _
  | succ bound ih =>
    rw [flagsOn]
    -- the flag is refused for octets, or beside another one of its kind
    refine .guarded (counts_fail _ _) (.guarded (counts_fail _ _) (.bind counts_next fun _ => ?_))
    split
    next => exact counts_fail _ _
    next =>
      refine .ite (.pure _) ?_
      split
      -- another flag follows
      next => exact ih _ _
      next => exact counts_noFlag _ _

/-- The flags that are taken back, by induction on the characters that may be left. -/
private theorem counts_flagsOff (bound : Nat) (flag : Flag) (flags : Flags) :
    Counts text (flagsOff bound flag flags) := by
  induction bound generalizing flag flags with
  | zero => exact counts_fail _ _
  | succ bound ih =>
    rw [flagsOff]
    refine .guarded (counts_fail _ _) (.bind counts_next fun _ => ?_)
    split
    next => exact counts_fail _ _
    next =>
      refine .ite (.pure _) ?_
      split
      -- another flag follows
      next => exact ih _ _
      next => exact counts_noFlag _ _

/-- A change of flags sets some, takes some back, and is global or for a group. -/
private theorem counts_flagChange (first : Token) : Counts text (flagChange first) := by
  refine .get fun _ _ => ?_
  dsimp only
  split
  -- flags to be set come first; a dash means that there are none
  case' h_1 => refine .bind (counts_flagsOn _ _ _) fun _ => ?_
  case' h_2 => refine .bind (.pure _) fun _ => ?_
  all_goals
    -- without a colon the flags hold for the whole pattern
    refine .ite (.bind (.change fun _ h => h) fun _ => .pure _) (.guarded (counts_fail _ _) ?_)
    refine .ite (.pure _) (.bind counts_next fun _ => ?_)
    split
    next => exact counts_fail _ _
    next =>
      split
      next => exact counts_noFlag _ _
      next =>
        -- after the dash comes at least one flag
        refine .bind (counts_flagsOff _ _ _) fun _ => .guarded (counts_fail _ _) ?_
        exact .ite (.bind (counts_fail _ _) fun _ => .pure _) (.pure _)

/-! ### Names of groups -/

/-- The name of a group has to be a name. -/
private theorem counts_groupName (terminator : Char) : Counts text (groupName terminator) := by
  rw [groupName]
  refine .bind (counts_name _ _) fun _ => ?_
  exact .ite (.bind (counts_fail _ _) fun _ => .pure _) (.pure _)

/-- A group that is referred to by its name must be there. -/
private theorem counts_groupNamed (name : String) : Counts text (groupNamed name) := by
  refine .get fun _ _ => ?_
  split
  next => exact .pure _
  next => exact counts_fail _ _

private theorem counts_groupByName (flags : Flags) : Counts text (groupByName flags) := by
  refine .bind (counts_groupName _) fun _ => .bind (counts_groupNamed _) fun _ => ?_
  refine .bind (counts_isClosed _) fun _ => .guarded (counts_fail _ _) ?_
  exact .bind (counts_checkLook _) fun _ => .pure _

/-- The group that a condition asks for, by number or by name. -/
private theorem counts_condition : Counts text condition := by
  refine .bind (counts_name _ _) fun name => .ite (counts_groupNamed _) ?_
  split
  next =>
    refine .guarded (counts_fail _ _) (.guarded (counts_fail _ _) ?_)
    refine .bind counts_position fun _ => .bind (.change fun c hc => ?_) fun _ => .pure _
    split
    · exact hc
    · exact hc
  next => exact counts_fail _ _

/-! ### Sequences and groups -/

/-- A comment up to its parenthesis, by induction on the characters that may be left. -/
private theorem counts_comment (start bound : Nat) : Counts text (comment start bound) := by
  induction bound with
  | zero => exact counts_failAt _ _
  | succ bound ih =>
    rw [comment]
    refine .bind counts_next fun _ => ?_
    split
    next => exact counts_failAt _ _
    next => exact .ite (.pure _) ih

/-- A comment up to the end of its line, by induction on the characters that may be left. -/
private theorem counts_restOfLine (bound : Nat) : Counts text (restOfLine bound) := by
  induction bound with
  | zero => exact .pure _
  | succ bound ih =>
    rw [restOfLine]
    refine .bind counts_next fun _ => ?_
    split
    next => exact .pure _
    next => exact .ite (.pure _) ih

private theorem counts_close (start : Nat) : Counts text (close start) :=
  .bind (counts_accept _) fun _ => .ite (counts_failAt _ _) (.pure _)

/-- What follows a parenthesis and a question mark, by the token after them. -/
private theorem counts_extension (flags : Flags) (start : Nat) (isStart : Bool) :
    Counts text (extension flags start isStart) := by
  refine .bind counts_next fun _ => ?_
  split
  next => exact counts_fail _ _
  next =>
    -- a name for the group, or the name of a group that is meant
    refine .bind (counts_accept _) fun _ => .ite (.bind (counts_groupName _) fun _ => .pure _) ?_
    refine .bind (counts_accept _) fun _ => .ite (.bind (counts_groupByName _) fun _ => .pure _) ?_
    refine .bind counts_next fun _ => ?_
    split
    next => exact counts_fail _ _
    next => exact counts_fail _ _
  next => exact .pure _
  -- a comment is passed over
  next => exact .get fun _ _ => .bind (counts_comment _ _) fun _ => .pure _
  next => exact .pure _
  next => exact .pure _
  next =>
    refine .bind counts_next fun _ => ?_
    split
    next => exact counts_fail _ _
    next => exact .pure _
    next => exact .pure _
    next => exact counts_fail _ _
  next =>
    -- a condition on a group
    exact .bind counts_condition fun _ => .bind (counts_checkLook _) fun _ => .pure _
  next => exact .pure _
  next =>
    -- anything else has to be a change of flags
    refine .ite (.bind (counts_flagChange _) fun _ => ?_) (counts_fail _ _)
    split
    next => exact .pure _
    next => exact .ite (.bind (counts_failAt _ _) fun _ => .pure _) (.pure _)

private theorem counts_opening (flags : Flags) (start : Nat) (isStart : Bool) :
    Counts text (opening flags start isStart) :=
  .bind (counts_accept _) fun _ => .ite (counts_extension _ _ _) (.pure _)

/-- All readers with a bound. -/
structure CountsAll (text : List Char) (bound : Nat) : Prop where
  alternatives : ∀ scope isStart, Counts text (alternatives bound scope isStart)
  sequence : ∀ scope isStart items, Counts text (sequence bound scope isStart items)
  group : ∀ scope start how, Counts text (group bound scope start how)

variable {bound : Nat}

/-- Alternatives, given that one level less of everything counts rightly. -/
private theorem counts_alternatives (h : CountsAll text bound) (scope : Scope) (isStart : Bool) :
    Counts text (alternatives (bound + 1) scope isStart) := by
  rw [alternatives]
  refine .bind (h.sequence _ _ _) fun _ => .bind (counts_accept _) fun _ => .ite ?_ (.pure _)
  exact .bind (h.alternatives _ _) fun _ => .pure _

/-- The items of a sequence, given that one level less of everything counts rightly. -/
private theorem counts_sequence (h : CountsAll text bound) (scope : Scope) (isStart : Bool)
    (items : List Item) : Counts text (sequence (bound + 1) scope isStart items) := by
  rw [sequence]
  refine .bind (counts_flagsIn _) fun _ => .bind counts_position fun _ => ?_
  refine .bind counts_peek fun _ => ?_
  split
  -- the text is at its end
  next => exact .pure _
  next =>
    have hmore : ∀ node : Node,
        Counts text (sequence bound scope isStart (Item.ofNode node :: items)) :=
      fun _ => h.sequence _ _ _
    -- a bar or a closing parenthesis ends the sequence, and spaces are passed over
    refine .ite (.pure _) (.bind counts_next fun _ => .ite (h.sequence _ _ _) (.ite ?_ ?_))
    -- a comment
    · exact .get fun _ _ => .bind (counts_restOfLine _) fun _ => h.sequence _ _ _
    · split
      -- a backslash, and then a bracket
      next => exact .bind (counts_escape _ _) fun _ => hmore _
      next => exact .bind (counts_charClass _ _) fun _ => hmore _
      next => exact hmore _
      next => exact hmore _
      next => exact hmore _
      next =>
        -- a parenthesis opens a flag change, a look around or a group
        refine .bind (counts_opening _ _ _) fun _ => ?_
        split
        next => exact h.sequence _ _ _
        next => exact hmore _
        next => exact .bind (h.group _ _ _) fun _ => h.sequence _ _ _
      -- the last case is an ordinary character, and what is left are marks of repetition
      case h_11 => exact hmore _
      all_goals
        refine .bind (counts_bounds? _) fun bounds => ?_
        cases bounds with
        | none => exact hmore _
        | some bounds => exact .bind (counts_repeatLast _ _ _) fun _ => h.sequence _ _ _

/-- A group by how it opens, given that one level less of everything counts rightly. -/
private theorem counts_group (h : CountsAll text bound) (scope : Scope) (start : Nat)
    (how : Opening) :
    Counts text (group (bound + 1) scope start how) := by
  rw [group.eq_def]
  -- every kind of group ends with the same parenthesis
  have hclosed : ∀ node : Node, Counts text (do close start; return node) :=
    fun _ => .bind (counts_close _) fun _ => .pure _
  dsimp only
  split
  next =>
    refine .bind (counts_openGroup _) fun _ => .bind (h.alternatives _ _) fun _ => ?_
    exact .bind (counts_close _) fun _ => .bind (counts_closeGroup _ _) fun _ => .pure _
  next => exact .bind (h.alternatives _ _) fun _ => hclosed _
  next => exact .bind (h.alternatives _ _) fun _ => hclosed _
  next =>
    refine .get fun _ _ => .ite (.bind (.change fun _ h => h) fun _ => ?_) ?_
    all_goals
      refine .bind (h.alternatives _ _) fun _ => .ite ?_ (.get fun _ _ => hclosed _)
      exact .bind (.change fun _ h => h) fun _ => .get fun _ _ => hclosed _
  next =>
    -- a condition has one branch or two
    refine .bind (h.sequence _ _ _) fun _ => .bind (counts_accept _) fun _ => .ite ?_ ?_
    case' refine_1 => refine .bind (h.sequence _ _ _) fun _ => ?_
    case' refine_2 => refine .bind (.pure _) fun _ => ?_
    all_goals
      refine .bind counts_peek fun _ => .ite ?_ (hclosed _)
      exact .bind (counts_fail _ _) fun _ => hclosed _
  next => exact .pure _
  next => exact .pure _

/-- All readers of patterns at once, by induction on the bound that they share. -/
private theorem countsAll (text : List Char) (bound : Nat) : CountsAll text bound := by
  induction bound with
  | zero =>
    exact ⟨fun _ _ => counts_fail _ _, fun _ _ _ => counts_fail _ _, fun _ _ _ => counts_fail _ _⟩
  | succ bound ih => exact ⟨counts_alternatives ih, counts_sequence ih, counts_group ih⟩

/-! ### Whole patterns -/

/-- What is asked of places further back has nothing to do with rounds. -/
private theorem fault?_ne_hugeRepeat (isTemplate : Bool) (n : Node) :
    n.fault? isTemplate ≠ some .hugeRepeat := by
  -- a pattern that has been read is only checked for what it looks back on
  induction n with
  | empty | one | place | same => exact nofun
  -- the fault of the first part comes first
  | seq a b iha ihb | alt a b iha ihb | ifGroup _ a b iha ihb =>
    rw [Node.fault?]
    cases ha : a.fault? isTemplate with
    | none => exact ihb
    | some f =>
      rw [ha] at iha
      exact iha
  | repeated greed least most body ih =>
    rw [Node.fault?]
    split
    · exact nofun
    · exact ih
  | group _ body ih | atomic body ih => exact ih
  | look back negated body ih =>
    -- looking ahead needs no width
    cases back with
    | none => exact ih
    | some w =>
      rw [Node.fault?]
      split
      · exact nofun
      split
      · exact nofun
      · exact ih

/-- A pattern that has been read is returned unless something is wrong with it. -/
private theorem counts_fault? (isTemplate : Bool) (n : Node) :
    Counts text (match n.fault? isTemplate with
      | some fault => throw fault
      | none => return n) := by
  split
  next hfault => exact .throw fun heq => absurd (heq ▸ hfault) (fault?_ne_hugeRepeat _ n)
  next => exact .pure _

/-- The pattern is all of the text, so a parenthesis must not be left over. -/
private theorem counts_wholePattern : Counts text wholePattern := by
  refine .get fun _ _ => .bind ((countsAll text _).alternatives _ _) fun n => .get fun c _ => ?_
  refine .guarded (.throw nofun) (.guarded (counts_fail _ _) ?_)
  dsimp only
  split
  next => exact .bind (counts_failAt _ _) fun _ => counts_fault? _ n
  next => exact counts_fault? _ n

end Reading

/-- Rounds are too many only where the text has a number that large. -/
theorem hasHugeNumber_of_ofText {names : Text.CharacterNames} {s : String}
    (h : ofText names s = .error .hugeRepeat) : HasHugeNumber s.toList := by
  rw [ofText, Node.ofText] at h
  split at h
  next => cases h
  next =>
    let start : Cursor := { rest := s.toList, characters := names, flags := [.ignoreCase] }
    -- the reading fails in this way only at a number of its text
    have hcounts : Reading.Counts s.toList Reading.wholePattern := Reading.counts_wholePattern
    have hwhole := hcounts.fails start (List.suffix_refl _)
    have hrun : ((Reading.wholePattern start).map Prod.fst).map (fun root => (⟨s, root⟩ : Pattern))
        = .error .hugeRepeat := h
    exact ((hwhole.map _).map _) _ hrun rfl

end Chronicle.Pattern
