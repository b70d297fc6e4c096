import Chronicle.Json.Printer
import Chronicle.Json.Token
import Chronicle.Proofs.Octets.Number
import Mathlib.Algebra.Group.Nat.Defs

/-!
# The words of a printed value

A printed value is read word by word. `Json.words` are the tokens that a value is printed as, and
`Json.tokens_print` says that these are the tokens that are read, whatever else follows. Strings
come back with every character, whether it has been escaped or not; an integer comes back if it has
no more digits than are allowed, and if what follows it cannot be taken for a part of it.
-/
namespace Chronicle

namespace Text

/-- A hexadecimal digit has the value it is printed for. -/
private theorem hexValue?_hexDigit : ∀ d < 16, hexValue? (hexDigit d) = some d := by
  decide

/-- A number is read back from its hexadecimal digits, if these are enough. -/
private theorem ofHexDigits?_hexDigits {width n : Nat} (hn : n < 16 ^ width) :
    ofHexDigits? (hexDigits width n) = some n := by
  -- by induction on the number of digits, the last one split off
  induction width generalizing n with
  | zero =>
    obtain rfl : n = 0 := by omega
    rfl
  | succ width ih =>
    have hhigh : n / 16 < 16 ^ width := by
      rw [Nat.pow_succ] at hn
      omega
    -- the last digit is the remainder, the others are the digits of the quotient
    have hlast := hexValue?_hexDigit (n % 16) (Nat.mod_lt _ (by omega))
    have hfirst := ih hhigh
    unfold ofHexDigits? at hfirst ⊢
    rw [hexDigits, List.foldl_append, hfirst]
    simp only [List.foldl_cons, List.foldl_nil, Option.bind_some, hlast, Option.map_some]
    congr 1
    omega

end Text

namespace Json

/-! ### Strings -/

/-- How a character is printed: as an escape of its own, as a number, or as it is. -/
theorem printChar_cases (c : Char) :
    (∃ e, escapedChar? e = some c ∧ printChar c = ['\\', e])
      ∨ c.toNat < 0x20 ∧ printChar c = '\\' :: 'u' :: Text.hexDigits 4 c.toNat
      ∨ (c ≠ '"' ∧ c ≠ '\\' ∧ ¬c.toNat < 0x20) ∧ printChar c = [c] := by
  -- a character is escaped by a letter, by its number, or not at all
  by_cases hescape : c ∈ ['"', '\\', '\n', '\r', '\t', '\x08', '\x0c']
  · left
    simp only [List.mem_cons, List.not_mem_nil, or_false] at hescape
    -- the characters that are escaped by a letter
    rcases hescape with rfl | rfl | rfl | rfl | rfl | rfl | rfl
    · exact ⟨'"', rfl, rfl⟩
    · exact ⟨'\\', rfl, rfl⟩
    · exact ⟨'n', rfl, rfl⟩
    · exact ⟨'r', rfl, rfl⟩
    · exact ⟨'t', rfl, rfl⟩
    · exact ⟨'b', rfl, rfl⟩
    · exact ⟨'f', rfl, rfl⟩
  · simp only [List.mem_cons, List.not_mem_nil, or_false, not_or] at hescape
    obtain ⟨hquote, hslash, hline, hreturn, htab, hback, hform⟩ := hescape
    right
    unfold printChar
    rw [if_neg hquote, if_neg hslash, if_neg hline, if_neg hreturn, if_neg htab, if_neg hback,
      if_neg hform]
    by_cases hcontrol : c.toNat < 0x20
    · exact .inl ⟨hcontrol, if_pos hcontrol⟩
    · exact .inr ⟨⟨hquote, hslash, hcontrol⟩, if_neg hcontrol⟩

/-- What a string is once it is known what follows its first character. -/
def withChar (c : Char) (length : Nat) (rest : Option (List Nat × Nat)) :
    Option (List Nat × Nat) :=
  rest.map fun found => (c.toNat :: found.1, found.2 + length)

/-- An escaped character is read as the character. -/
private theorem scanString_escape {e c : Char} (he : escapedChar? e = some c) (rest : List Char) :
    scanString ('\\' :: e :: rest) = withChar c 2 (scanString rest) := by
  unfold escapedChar? at he
  split at he <;> cases he <;>
    cases h : scanString rest <;> simp [scanString, escapedChar?, withChar, h]

/-- A character that needs no escape is read as itself. -/
private theorem scanString_plain {c : Char} (hc : c ≠ '"' ∧ c ≠ '\\' ∧ ¬c.toNat < 0x20)
    (rest : List Char) : scanString (c :: rest) = withChar c 1 (scanString rest) := by
  obtain ⟨hquote, hslash, hcontrol⟩ := hc
  have hprintable : 0x20 ≤ c.toNat := Nat.not_lt.1 hcontrol
  cases h : scanString rest <;> simp [scanString, hslash, hprintable, withChar, h]

/-- A character is read back as it is printed. -/
private theorem scanString_printChar (c : Char) (rest : List Char) :
    scanString (printChar c ++ rest) = withChar c (printChar c).length (scanString rest) := by
  rcases printChar_cases c with ⟨e, he, hprint⟩ | ⟨hcontrol, hprint⟩ | ⟨hplain, hprint⟩
  · rw [hprint]
    exact scanString_escape he rest
  · -- four digits are enough for the number of a control character
    have hread := @Text.ofHexDigits?_hexDigits 4 c.toNat (by omega)
    have hfour : Text.hexDigits 4 c.toNat = [Text.hexDigit (c.toNat / 16 / 16 / 16 % 16),
      Text.hexDigit (c.toNat / 16 / 16 % 16), Text.hexDigit (c.toNat / 16 % 16),
      Text.hexDigit (c.toNat % 16)] := rfl
    rw [hprint]
    rw [hfour] at hread ⊢
    cases h : scanString rest <;> simp [scanString, withChar, h, hread]
  · rw [hprint]
    exact scanString_plain hplain rest

/-- The characters of a string are read up to the quotation mark that closes it. -/
private theorem scanString_flatMap_printChar (s : List Char) (rest : List Char) :
    scanString (s.flatMap printChar ++ '"' :: rest)
      = some (s.map Char.toNat, (s.flatMap printChar).length + 1) := by
  induction s with
  | nil => simp [scanString]
  | cons c s ih =>
    rw [List.flatMap_cons, List.append_assoc, scanString_printChar, ih]
    simp only [withChar, Option.map_some, List.map_cons, List.length_append]
    congr 2
    omega

/-- No character is a surrogate. -/
private theorem joinSurrogates_toNat (s : List Char) : joinSurrogates (s.map Char.toNat) = s := by
  induction s with
  | nil => simp [joinSurrogates]
  | cons c s ih =>
    -- a character is never half of a surrogate pair
    have hvalid := Octets.toNat_char c
    have hhigh : isHighSurrogate c.toNat = false := by
      simp only [isHighSurrogate, Bool.and_eq_false_iff, decide_eq_false_iff_not]
      omega
    have hlow : isLowSurrogate c.toNat = false := by
      simp only [isLowSurrogate, Bool.and_eq_false_iff, decide_eq_false_iff_not]
      omega
    rw [List.map_cons, joinSurrogates.eq_def]
    simp only [hhigh, hlow, ih, Char.ofNat_toNat, Bool.false_eq_true, if_false]

/-! ### Numbers -/

/-- What follows a number can be no part of it. -/
def EndsNumber (rest : List Char) : Prop :=
  ∀ c t, rest = c :: t → c.isDigit = false ∧ c ≠ '.' ∧ c ≠ 'e' ∧ c ≠ 'E'

/-- The end of the text ends a number. -/
theorem endsNumber_nil : EndsNumber [] := nofun

/-- So does a character that cannot go on with one. -/
private theorem endsNumber_cons {c : Char} (hc : c.isDigit = false ∧ c ≠ '.' ∧ c ≠ 'e' ∧ c ≠ 'E')
    (t : List Char) : EndsNumber (c :: t) := by
  rintro c' t' heq
  cases heq
  exact hc

variable {rest : List Char}

/-- Only zero is written with a zero at its beginning. -/
private theorem digits_ne_zero_cons {n : Nat} (hn : n ≠ 0) (t : List Char) :
    Decimal.digits n ≠ '0' :: t := by
  -- by induction on the digits: the first one is that of the largest part
  induction n using Decimal.digits.induct generalizing t with
  | case1 n hlt =>
    rw [Decimal.digits, if_pos hlt]
    intro heq
    -- a single digit is the number itself, which is not zero
    have hchar := congrArg Char.toNat (List.cons.inj heq).1
    rw [Decimal.toNat_digitChar hlt] at hchar
    have hzero : '0'.toNat = 48 := rfl
    omega
  | case2 n hge ih =>
    rw [Decimal.digits, if_neg hge]
    obtain ⟨c, cs, hcs⟩ := List.exists_cons_of_ne_nil (Decimal.digits_ne_nil (n / 10))
    intro heq
    rw [hcs, List.cons_append] at heq
    obtain ⟨rfl, -⟩ := List.cons.inj heq
    exact ih (by omega) cs hcs

/-- The digits of a number are all that is taken. -/
private theorem takeWhile_digits (n : Nat) (hrest : EndsNumber rest) :
    (Decimal.digits n ++ rest).takeWhile Char.isDigit = Decimal.digits n := by
  rw [List.takeWhile_append_of_pos fun c hc => Decimal.isDigit_of_mem_digits hc]
  cases rest with
  | nil => exact List.append_nil _
  | cons c t =>
    rw [List.takeWhile_cons_of_neg (by simp [(hrest c t rfl).1]), List.append_nil]

/-- The whole part that is read is the number that was printed. -/
private theorem scanWhole_digits (n : Nat) (hrest : EndsNumber rest) :
    scanWhole (Decimal.digits n ++ rest) = Decimal.digits n := by
  by_cases hn : n = 0
  · subst hn
    rw [Decimal.digits, if_pos (by omega)]
    rfl
  · unfold scanWhole
    split
    · -- a zero at the beginning would be taken alone
      rename_i heq
      obtain ⟨c, cs, hcs⟩ := List.exists_cons_of_ne_nil (Decimal.digits_ne_nil n)
      rw [hcs, List.cons_append] at heq
      obtain ⟨rfl, -⟩ := List.cons.inj heq
      exact absurd hcs (digits_ne_zero_cons hn cs)
    · exact takeWhile_digits n hrest

/-- What ends a number is no fraction. -/
private theorem scanFraction_of_endsNumber (hrest : EndsNumber rest) : scanFraction rest = [] := by
  unfold scanFraction
  split
  · exact absurd rfl (hrest _ _ rfl).2.1
  · rfl

/-- Nor is it an exponent. -/
private theorem scanExponent_of_endsNumber (hrest : EndsNumber rest) :
    scanExponent rest = none := by
  unfold scanExponent
  split
  · exact absurd rfl (hrest _ _ rfl).2.2.1
  · exact absurd rfl (hrest _ _ rfl).2.2.2
  · rfl

/-- An integer has no more digits than are allowed. -/
def IsShort (i : Int) : Prop :=
  (Decimal.digits i.natAbs).length ≤ Decimal.maxDigits

/-- A printed integer is read back, if it has no more digits than are allowed. -/
private theorem scanNumber_ofInt {i : Int} (hi : IsShort i) (hrest : EndsNumber rest) :
    scanNumber (Decimal.ofInt i ++ rest) = some (.scalar (.int i), (Decimal.ofInt i).length) := by
  cases i with
  | ofNat n =>
    -- the number has no more digits than may be read
    have hshort : ¬Decimal.maxDigits < (Decimal.digits n).length := Nat.not_lt.2 hi
    obtain ⟨c, cs, hcs⟩ := List.exists_cons_of_ne_nil (Decimal.digits_ne_nil n)
    have hc : c.isDigit = true := Decimal.isDigit_of_mem_digits (hcs ▸ List.mem_cons_self)
    have hsign : c ≠ '-' := by
      rintro rfl
      cases hc
    have hwhole := scanWhole_digits n hrest
    have hvalue := Decimal.ofDigits_digits n
    show scanNumber (Decimal.digits n ++ rest)
      = some (.scalar (.int n), (Decimal.digits n).length)
    rw [hcs, List.cons_append] at hwhole ⊢
    rw [hcs] at hvalue hshort
    unfold scanNumber
    split
    rename_i negative signed body heq
    -- the digits do not begin with a sign
    split at heq
    · rename_i hminus
      exact absurd (List.cons.inj hminus).1 hsign
    · cases heq
      simp [hwhole, scanFraction_of_endsNumber hrest, scanExponent_of_endsNumber hrest, hvalue]
      exact Nat.not_lt.1 hshort
  -- the sign is taken off first, and then the digits are read as before
  | negSucc n =>
    have hshort : ¬Decimal.maxDigits < (Decimal.digits (n + 1)).length := Nat.not_lt.2 hi
    unfold scanNumber Decimal.ofInt
    simp only [List.cons_append, scanWhole_digits (n + 1) hrest, List.drop_left,
      scanFraction_of_endsNumber hrest]
    simp [scanExponent_of_endsNumber hrest, hshort, Decimal.digits_ne_nil, Decimal.ofDigits_digits]
    omega

/-- A word that is no number does not begin like one. -/
private theorem find?_literals_of_isDigit {c : Char} (hc : c.isDigit = true) (t : List Char) :
    (literals.find? fun l => l.1.isPrefixOf (c :: t)) = none
      ∧ (literals.find? fun l => l.1.isPrefixOf ('-' :: c :: t)) = none := by
  -- literals begin with letters, numbers do not
  have hletter : ∀ l : Char, l.isDigit = false → (l == c) = false := by
    intro l hl
    rw [beq_eq_false_iff_ne]
    rintro rfl
    exact Bool.false_ne_true (hl.symm.trans hc)
  have hspelled : literals = [(['n', 'u', 'l', 'l'], .null), (['t', 'r', 'u', 'e'], .bool true),
      (['f', 'a', 'l', 's', 'e'], .bool false), (['N', 'a', 'N'], .float .nan),
      (['I', 'n', 'f', 'i', 'n', 'i', 't', 'y'], .float (.infinity false)),
      (['-', 'I', 'n', 'f', 'i', 'n', 'i', 't', 'y'], .float (.infinity true))] := rfl
  rw [hspelled]
  constructor
  · simp only [List.find?_cons, List.isPrefixOf_cons_cons, hletter 'n' rfl, hletter 't' rfl,
      hletter 'f' rfl, hletter 'N' rfl, hletter 'I' rfl, hletter '-' rfl, Bool.false_and,
      List.find?_nil]
  · simp [List.isPrefixOf, hletter 'I' rfl]

/-- A printed integer is not taken for a literal. -/
private theorem scanScalar_ofInt {i : Int} (hi : IsShort i) (hrest : EndsNumber rest) :
    scanScalar (Decimal.ofInt i ++ rest) = some (.scalar (.int i), (Decimal.ofInt i).length) := by
  have hnone : (literals.find? fun l => l.1.isPrefixOf (Decimal.ofInt i ++ rest)) = none := by
    -- an integer begins with a digit, or with a sign and a digit
    have hdigits : ∀ n, ∃ c cs, Decimal.digits n = c :: cs ∧ c.isDigit = true := by
      intro n
      obtain ⟨c, cs, hcs⟩ := List.exists_cons_of_ne_nil (Decimal.digits_ne_nil n)
      exact ⟨c, cs, hcs, Decimal.isDigit_of_mem_digits (hcs ▸ List.mem_cons_self)⟩
    cases i with
    | ofNat n =>
      obtain ⟨c, cs, hcs, hc⟩ := hdigits n
      rw [Decimal.ofInt, hcs]
      exact (find?_literals_of_isDigit hc _).1
    | negSucc n =>
      obtain ⟨c, cs, hcs, hc⟩ := hdigits (n + 1)
      rw [Decimal.ofInt, hcs]
      exact (find?_literals_of_isDigit hc _).2
  rw [scanScalar, hnone]
  exact scanNumber_ofInt hi hrest

/-! ### Tokens -/

/-- A sign of punctuation is one token. -/
private theorem tokens_punctuation {c : Char} {token : Token} (hc : punctuation? c = some token)
    (t : List Char) : tokens (c :: t) = token :: tokens t := by
  have hspace : isSpace c = false := by
    unfold punctuation? at hc
    split at hc <;> first | rfl | cases hc
  rw [tokens]
  simp only [hspace, hc, Bool.false_eq_true, if_false]

/-- A printed string is one token, the string. -/
private theorem tokens_printString (s : List Char) (rest : List Char) :
    tokens (printString s ++ rest) = .text (String.ofList s) :: tokens rest := by
  have hscan := scanString_flatMap_printChar s rest
  have hdrop : (s.flatMap printChar ++ '"' :: rest).drop ((s.flatMap printChar).length + 1)
      = rest := by
    rw [← List.drop_drop, List.drop_left]
    rfl
  rw [printString, List.cons_append, List.cons_append, List.append_assoc, List.singleton_append,
    tokens]
  simp only [show isSpace '"' = false from rfl, show punctuation? '"' = none from rfl, hscan, hdrop,
    joinSurrogates_toNat, Bool.false_eq_true, if_false, if_true]

/-- A scalar is one token, and reading goes on behind it. -/
private theorem tokens_scalar {c : Char} {t : List Char} {token : Token} {used : Nat}
    (hc : isSpace c = false ∧ punctuation? c = none ∧ c ≠ '"')
    (hscan : scanScalar (c :: t) = some (token, used)) :
    tokens (c :: t) = token :: tokens (t.drop (used - 1)) := by
  obtain ⟨hspace, hpunctuation, hquote⟩ := hc
  rw [tokens]
  simp only [hspace, hpunctuation, hquote, hscan, Bool.false_eq_true, if_false]

/-- What a number begins with is neither blank nor punctuation nor a quote. -/
private theorem not_punctuation_of_isDigit {c : Char} (hc : c.isDigit = true ∨ c = '-') :
    isSpace c = false ∧ punctuation? c = none ∧ c ≠ '"' := by
  rcases hc with hc | rfl
  · have hother : ∀ x : Char, x.isDigit = false → c ≠ x := by
      rintro x hx rfl
      exact Bool.false_ne_true (hx.symm.trans hc)
    refine ⟨?_, ?_, hother '"' rfl⟩
    · simp [isSpace, hother ' ' rfl, hother '\t' rfl, hother '\n' rfl, hother '\r' rfl]
    · unfold punctuation?
      split <;> first | rfl | cases hc
  · decide

/-- A printed integer is one token. -/
private theorem tokens_ofInt {i : Int} (hi : IsShort i) (hrest : EndsNumber rest) :
    tokens (Decimal.ofInt i ++ rest) = .scalar (.int i) :: tokens rest := by
  have hscan := scanScalar_ofInt hi hrest
  have hne : Decimal.ofInt i ≠ [] := by
    cases i with
    | ofNat n => exact Decimal.digits_ne_nil n
    | negSucc n => exact List.cons_ne_nil _ _
  -- an integer cannot be taken for anything but a scalar
  have hfirst : ∀ c ∈ Decimal.ofInt i, c.isDigit = true ∨ c = '-' := by
    intro c hc
    cases i with
    | ofNat n => exact .inl (Decimal.isDigit_of_mem_digits hc)
    | negSucc n =>
      rcases List.mem_cons.1 hc with rfl | hc
      · exact .inr rfl
      · exact .inl (Decimal.isDigit_of_mem_digits hc)
  obtain ⟨c, cs, hcs⟩ := List.exists_cons_of_ne_nil hne
  have hword := not_punctuation_of_isDigit (hfirst c (hcs ▸ List.mem_cons_self))
  rw [hcs, List.cons_append] at hscan ⊢
  rw [tokens_scalar hword hscan, List.length_cons, Nat.add_sub_cancel, List.drop_left]

/-! ### Values -/

mutual

/-- The tokens that a value is printed as. -/
def words : Json → List Token
  | .str s => [.text s]
  | .arr [] => [.openList, .closeList]
  | .arr (v :: vs) => .openList :: (words v ++ wordsOfItems vs)
  | .obj [] => [.openObject, .closeObject]
  | .obj ((k, v) :: ms) => .openObject :: .text k :: .colon :: (words v ++ wordsOfMembers ms)
  | v => [.scalar v]

/-- The tokens of the items after the first, up to the end of the list. -/
def wordsOfItems : List Json → List Token
  | [] => [.closeList]
  | v :: vs => .comma :: (words v ++ wordsOfItems vs)

/-- The tokens of the members after the first, up to the end of the object. -/
def wordsOfMembers : List (String × Json) → List Token
  | [] => [.closeObject]
  | (k, v) :: ms => .comma :: .text k :: .colon :: (words v ++ wordsOfMembers ms)

end

mutual

/-- A value without numbers of binary64 and without integers of too many digits, in which no object
has two members with one key. -/
def Readable : Json → Prop
  | .int i => IsShort i
  | .float _ => False
  | .arr items => ItemsReadable items
  | .obj members => (members.map (·.1)).Nodup ∧ MembersReadable members
  | _ => True

/-- Items of this form. -/
def ItemsReadable : List Json → Prop
  | [] => True
  | v :: vs => Readable v ∧ ItemsReadable vs

/-- Members whose values are of this form. -/
def MembersReadable : List (String × Json) → Prop
  | [] => True
  | (_, v) :: ms => Readable v ∧ MembersReadable ms

end

/-- What follows an item of a list ends a number. -/
private theorem endsNumber_printItems (vs : List Json) (rest : List Char) :
    EndsNumber (printItems vs ++ rest) := by
  cases vs <;> rw [printItems] <;> exact endsNumber_cons (by decide) _

/-- So does what follows a member. -/
private theorem endsNumber_printMembers (ms : List (String × Json)) (rest : List Char) :
    EndsNumber (printMembers ms ++ rest) := by
  rcases ms with - | ⟨⟨k, v⟩, ms⟩ <;> rw [printMembers] <;> exact endsNumber_cons (by decide) _

mutual

/-- A printed value is read as the tokens that it is printed as. -/
theorem tokens_print (v : Json) (hv : Readable v) {rest : List Char} (hrest : EndsNumber rest) :
    tokens (print v ++ rest) = words v ++ tokens rest := by
  -- by recursion on the value, along with its items and members
  match v with
  | .null =>
    have hscan : scanScalar ('n' :: 'u' :: 'l' :: 'l' :: rest) = some (.scalar .null, 4) := rfl
    exact tokens_scalar (by decide) hscan
  | .bool true =>
    have hscan : scanScalar ('t' :: 'r' :: 'u' :: 'e' :: rest)
        = some (.scalar (.bool true), 4) := rfl
    exact tokens_scalar (by decide) hscan
  | .bool false =>
    have hscan : scanScalar ('f' :: 'a' :: 'l' :: 's' :: 'e' :: rest)
        = some (.scalar (.bool false), 5) := rfl
    exact tokens_scalar (by decide) hscan
  | .int i => exact tokens_ofInt hv hrest
  | .float x => cases hv
  | .str s =>
    rw [print, tokens_printString, String.ofList_toList]
    rfl
  | .arr [] =>
    show tokens ('[' :: ']' :: rest) = _
    rw [tokens_punctuation rfl, tokens_punctuation rfl]
    rfl
  | .arr (v :: vs) =>
    obtain ⟨hv, hvs⟩ : Readable v ∧ ItemsReadable vs := hv
    -- a comma or a bracket follows, which ends a number
    rw [print, List.cons_append, List.cons_append, List.append_assoc, tokens_punctuation rfl,
      tokens_print v hv (endsNumber_printItems vs rest), tokens_printItems vs hvs rest, words,
      List.cons_append, List.append_assoc]
  | .obj [] =>
    show tokens ('{' :: '}' :: rest) = _
    rw [tokens_punctuation rfl, tokens_punctuation rfl]
    rfl
  | .obj ((k, v) :: ms) =>
    obtain ⟨-, hv, hms⟩ : _ ∧ Readable v ∧ MembersReadable ms := hv
    -- the key is a string, and a colon stands between it and the value
    have hsplit : print (.obj ((k, v) :: ms)) ++ rest = '{' :: (printString k.toList
        ++ ':' :: (print v ++ (printMembers ms ++ rest))) := by
      simp only [print, List.cons_append, List.append_assoc]
    rw [hsplit, tokens_punctuation rfl, tokens_printString, tokens_punctuation rfl,
      tokens_print v hv (endsNumber_printMembers ms rest), tokens_printMembers ms hms rest,
      String.ofList_toList, words]
    simp only [List.cons_append, List.append_assoc]

/-- The items of a list are read word by word. -/
private theorem tokens_printItems (vs : List Json) (hvs : ItemsReadable vs) (rest : List Char) :
    tokens (printItems vs ++ rest) = wordsOfItems vs ++ tokens rest := by
  match vs with
  | [] => exact tokens_punctuation rfl rest
  | v :: vs =>
    obtain ⟨hv, hvs⟩ : Readable v ∧ ItemsReadable vs := hvs
    rw [printItems, List.cons_append, List.cons_append, List.append_assoc, tokens_punctuation rfl,
      tokens_print v hv (endsNumber_printItems vs rest), tokens_printItems vs hvs rest,
      wordsOfItems, List.cons_append, List.append_assoc]

/-- So are the members of an object. -/
private theorem tokens_printMembers (ms : List (String × Json)) (hms : MembersReadable ms)
    (rest : List Char) : tokens (printMembers ms ++ rest) = wordsOfMembers ms ++ tokens rest := by
  match ms with
  | [] => exact tokens_punctuation rfl rest
  | (k, v) :: ms =>
    obtain ⟨hv, hms⟩ : Readable v ∧ MembersReadable ms := hms
    have hsplit : printMembers ((k, v) :: ms) ++ rest = ',' :: (printString k.toList
        ++ ':' :: (print v ++ (printMembers ms ++ rest))) := by
      simp only [printMembers, List.cons_append, List.append_assoc]
    rw [hsplit, tokens_punctuation rfl, tokens_printString, tokens_punctuation rfl,
      tokens_print v hv (endsNumber_printMembers ms rest), tokens_printMembers ms hms rest,
      String.ofList_toList, wordsOfMembers]
    simp only [List.cons_append, List.append_assoc]

end

end Json

end Chronicle
