import Chronicle.Octets.Utf8
import Chronicle.Proofs.Octets.Number

/-!
# UTF-8 read back

Every text is read back from its octets, and octets that decode are those of the text that they
decode to: `Utf8.decode_encode` and `Utf8.encode_of_decode`. Behind each of the two there is one
lemma for every length that a character can have.
-/
namespace Chronicle.Utf8

open Octets

/-! ### Octets as numbers -/

/-- The octets that can follow in a character, as a range. -/
private theorem isTail_iff {b : UInt8} : isTail b = true ↔ 0x80 ≤ b.toNat ∧ b.toNat < 0xC0 := by
  simp [isTail, UInt8.le_iff_toNat_le, UInt8.lt_iff_toNat_lt]

/-- The octets that can come second, as ranges that depend on the first. -/
private theorem isSecond_iff {a b : UInt8} :
    isSecond a b = true ↔ 0x80 ≤ b.toNat ∧ b.toNat < 0xC0 ∧ (a.toNat = 0xE0 → 0xA0 ≤ b.toNat)
      ∧ (a.toNat = 0xED → b.toNat < 0xA0) ∧ (a.toNat = 0xF0 → 0x90 ≤ b.toNat)
      ∧ (a.toNat = 0xF4 → b.toNat < 0x90) := by
  have hsame : ∀ c : UInt8, a = c ↔ a.toNat = c.toNat := fun c => UInt8.toNat_inj.symm
  simp [isSecond, isTail_iff, UInt8.le_iff_toNat_le, UInt8.lt_iff_toNat_lt, hsame,
    ← Decidable.imp_iff_not_or, and_assoc]

/-- A tail carries what it exceeds its least value by. -/
private theorem tailBits_eq (b : UInt8) : tailBits b = b.toNat - 0x80 :=
  rfl

/-! ### Single characters -/

/-- A character of ASCII is one octet. -/
private theorem encodeChar_of_one {c : Char} (h : c.toNat < 0x80) :
    encodeChar c = [UInt8.ofNat c.toNat] := by
  rw [encodeChar, if_pos h]

/-- A character below `0x800` is two octets. -/
private theorem encodeChar_of_two {c : Char} (h : ¬c.toNat < 0x80) (h' : c.toNat < 0x800) :
    encodeChar c = [UInt8.ofNat (0xC0 + c.toNat / 0x40), UInt8.ofNat (0x80 + c.toNat % 0x40)] := by
  rw [encodeChar, if_neg h, if_pos h']

/-- A character below `0x10000` is three octets. -/
private theorem encodeChar_of_three {c : Char} (h : ¬c.toNat < 0x800) (h' : c.toNat < 0x10000) :
    encodeChar c = [UInt8.ofNat (0xE0 + c.toNat / 0x1000),
      UInt8.ofNat (0x80 + c.toNat / 0x40 % 0x40), UInt8.ofNat (0x80 + c.toNat % 0x40)] := by
  have hone : ¬c.toNat < 0x80 := by omega
  rw [encodeChar, if_neg hone, if_neg h, if_pos h']

/-- Any other character is four octets. -/
private theorem encodeChar_of_four {c : Char} (h : ¬c.toNat < 0x10000) :
    encodeChar c = [UInt8.ofNat (0xF0 + c.toNat / 0x40000),
      UInt8.ofNat (0x80 + c.toNat / 0x1000 % 0x40), UInt8.ofNat (0x80 + c.toNat / 0x40 % 0x40),
      UInt8.ofNat (0x80 + c.toNat % 0x40)] := by
  have hone : ¬c.toNat < 0x80 := by omega
  have htwo : ¬c.toNat < 0x800 := by omega
  rw [encodeChar, if_neg hone, if_neg htwo, if_neg h]

variable {a b c d : UInt8} {pos : Nat} {t : List UInt8}

/-- An octet of ASCII is a character. -/
theorem decodeFrom_one (ha : a.toNat < 0x80) :
    decodeFrom pos (a :: t) = (Char.ofNat a.toNat :: ·) <$> decodeFrom (pos + 1) t := by
  rw [decodeFrom.eq_def]
  simp [UInt8.lt_iff_toNat_lt, ha]

/-- A first octet of two and a tail are a character. -/
theorem decodeFrom_two (ha : 0xC2 ≤ a.toNat ∧ a.toNat < 0xE0) (hb : isTail b = true) :
    decodeFrom pos (a :: b :: t)
      = (Char.ofNat ((a.toNat - 0xC0) * 0x40 + tailBits b) :: ·) <$> decodeFrom (pos + 2) t := by
  rw [decodeFrom.eq_def]
  simp [UInt8.lt_iff_toNat_lt, UInt8.le_iff_toNat_le, hb, show ¬a.toNat < 128 by omega,
    show ¬a.toNat < 194 by omega, show ¬245 ≤ a.toNat by omega, ha]

/-- A first octet of three, a second for it, and a tail are a character. -/
private theorem decodeFrom_three (ha : 0xE0 ≤ a.toNat ∧ a.toNat < 0xF0) (hb : isSecond a b = true)
    (hc : isTail c = true) :
    decodeFrom pos (a :: b :: c :: t)
      = (Char.ofNat ((a.toNat - 0xE0) * 0x1000 + tailBits b * 0x40 + tailBits c) :: ·)
        <$> decodeFrom (pos + 3) t := by
  rw [decodeFrom.eq_def]
  simp [UInt8.lt_iff_toNat_lt, UInt8.le_iff_toNat_le, hb, hc, show ¬a.toNat < 128 by omega,
    show ¬a.toNat < 194 by omega, show ¬245 ≤ a.toNat by omega, show ¬a.toNat < 224 by omega, ha]

/-- A first octet of four, a second for it, and two tails are a character. -/
private theorem decodeFrom_four (ha : 0xF0 ≤ a.toNat ∧ a.toNat < 0xF5) (hb : isSecond a b = true)
    (hc : isTail c = true) (hd : isTail d = true) :
    decodeFrom pos (a :: b :: c :: d :: t)
      = (Char.ofNat ((a.toNat - 0xF0) * 0x40000 + tailBits b * 0x1000 + tailBits c * 0x40
          + tailBits d) :: ·) <$> decodeFrom (pos + 4) t := by
  rw [decodeFrom.eq_def]
  simp [UInt8.lt_iff_toNat_lt, UInt8.le_iff_toNat_le, hb, hc, hd, show ¬a.toNat < 128 by omega,
    show ¬a.toNat < 194 by omega, show ¬245 ≤ a.toNat by omega, show ¬a.toNat < 224 by omega,
    show ¬a.toNat < 240 by omega]

/-! ### Texts read back -/

/-- A character is read back from its octets, whatever follows. -/
private theorem decodeFrom_encodeChar (c : Char) (pos : Nat) (t : List UInt8) :
    decodeFrom pos (encodeChar c ++ t)
      = (c :: ·) <$> decodeFrom (pos + (encodeChar c).length) t := by
  have hvalid := toNat_char c
  -- one case for each length; the octets are computed first, and then the character from them
  by_cases hone : c.toNat < 0x80
  · have ha : (UInt8.ofNat c.toNat).toNat = c.toNat := toNat_ofNat_of_lt (by omega)
    rw [encodeChar_of_one hone, List.singleton_append, List.length_singleton,
      decodeFrom_one (by omega), char_eq ha]
  by_cases htwo : c.toNat < 0x800
  · have ha : (UInt8.ofNat (0xC0 + c.toNat / 0x40)).toNat = 0xC0 + c.toNat / 0x40 :=
      toNat_ofNat_of_lt (by omega)
    have hb : (UInt8.ofNat (0x80 + c.toNat % 0x40)).toNat = 0x80 + c.toNat % 0x40 :=
      toNat_ofNat_of_lt (by omega)
    have hchar : (0xC0 + c.toNat / 0x40 - 0xC0) * 0x40 + (0x80 + c.toNat % 0x40 - 0x80)
        = c.toNat := by omega
    rw [encodeChar_of_two hone htwo, List.cons_append, List.singleton_append,
      decodeFrom_two (by omega) (isTail_iff.2 (by omega)), tailBits_eq, ha, hb, char_eq hchar]
    simp
  by_cases hthree : c.toNat < 0x10000
  · have ha : (UInt8.ofNat (0xE0 + c.toNat / 0x1000)).toNat = 0xE0 + c.toNat / 0x1000 :=
      toNat_ofNat_of_lt (by omega)
    have hb : (UInt8.ofNat (0x80 + c.toNat / 0x40 % 0x40)).toNat
        = 0x80 + c.toNat / 0x40 % 0x40 := toNat_ofNat_of_lt (by omega)
    have hc : (UInt8.ofNat (0x80 + c.toNat % 0x40)).toNat = 0x80 + c.toNat % 0x40 :=
      toNat_ofNat_of_lt (by omega)
    have hchar : (0xE0 + c.toNat / 0x1000 - 0xE0) * 0x1000
        + (0x80 + c.toNat / 0x40 % 0x40 - 0x80) * 0x40 + (0x80 + c.toNat % 0x40 - 0x80)
          = c.toNat := by omega
    rw [encodeChar_of_three htwo hthree, List.cons_append, List.cons_append, List.singleton_append,
      decodeFrom_three (by omega) (isSecond_iff.2 (by omega)) (isTail_iff.2 (by omega)),
      tailBits_eq, tailBits_eq, ha, hb, hc, char_eq hchar]
    simp
  · have ha : (UInt8.ofNat (0xF0 + c.toNat / 0x40000)).toNat = 0xF0 + c.toNat / 0x40000 :=
      toNat_ofNat_of_lt (by omega)
    have hb : (UInt8.ofNat (0x80 + c.toNat / 0x1000 % 0x40)).toNat
        = 0x80 + c.toNat / 0x1000 % 0x40 := toNat_ofNat_of_lt (by omega)
    have hc : (UInt8.ofNat (0x80 + c.toNat / 0x40 % 0x40)).toNat
        = 0x80 + c.toNat / 0x40 % 0x40 := toNat_ofNat_of_lt (by omega)
    have hd : (UInt8.ofNat (0x80 + c.toNat % 0x40)).toNat = 0x80 + c.toNat % 0x40 :=
      toNat_ofNat_of_lt (by omega)
    have hchar : (0xF0 + c.toNat / 0x40000 - 0xF0) * 0x40000
        + (0x80 + c.toNat / 0x1000 % 0x40 - 0x80) * 0x1000
        + (0x80 + c.toNat / 0x40 % 0x40 - 0x80) * 0x40 + (0x80 + c.toNat % 0x40 - 0x80)
          = c.toNat := by omega
    rw [encodeChar_of_four hthree, List.cons_append, List.cons_append, List.cons_append,
      List.singleton_append,
      decodeFrom_four (by omega) (isSecond_iff.2 (by omega)) (isTail_iff.2 (by omega))
        (isTail_iff.2 (by omega)),
      tailBits_eq, tailBits_eq, tailBits_eq, ha, hb, hc, hd, char_eq hchar]
    simp

/-- A text is read back from its octets, wherever they stand. -/
theorem decodeFrom_encode (s : List Char) (pos : Nat) : decodeFrom pos (encode s) = .ok s := by
  induction s generalizing pos with
  | nil => rfl
  | cons c rest ih =>
    have hcons : encode (c :: rest) = encodeChar c ++ encode rest := List.flatMap_cons
    rw [hcons, decodeFrom_encodeChar, ih]
    rfl

/-- A text is read back from its octets. -/
theorem decode_encode (s : List Char) : decode (encode s) = .ok s :=
  decodeFrom_encode s 0

/-! ### Octets written again -/

/-- The character of one octet is encoded as that octet. -/
private theorem encodeChar_one (ha : a.toNat < 0x80) : encodeChar (Char.ofNat a.toNat) = [a] := by
  have hchar : (Char.ofNat a.toNat).toNat = a.toNat := toNat_ofNat_char (by omega)
  rw [encodeChar, hchar, if_pos ha, UInt8.ofNat_toNat]

/-- The character of two octets is encoded as those. -/
private theorem encodeChar_two (ha : 0xC2 ≤ a.toNat ∧ a.toNat < 0xE0) (hb : isTail b = true) :
    encodeChar (Char.ofNat ((a.toNat - 0xC0) * 0x40 + tailBits b)) = [a, b] := by
  have hb := isTail_iff.1 hb
  generalize hn : (a.toNat - 0xC0) * 0x40 + tailBits b = n
  rw [tailBits_eq] at hn
  have hchar : (Char.ofNat n).toNat = n := toNat_ofNat_char (by omega)
  have ha : UInt8.ofNat (0xC0 + n / 0x40) = a := octet_eq (by omega)
  have hb : UInt8.ofNat (0x80 + n % 0x40) = b := octet_eq (by omega)
  rw [encodeChar_of_two (by omega) (by omega), hchar, ha, hb]

/-- The character of three octets is encoded as those. -/
private theorem encodeChar_three (ha : 0xE0 ≤ a.toNat ∧ a.toNat < 0xF0) (hb : isSecond a b = true)
    (hc : isTail c = true) :
    encodeChar (Char.ofNat ((a.toNat - 0xE0) * 0x1000 + tailBits b * 0x40 + tailBits c))
      = [a, b, c] := by
  have hb := isSecond_iff.1 hb
  have hc := isTail_iff.1 hc
  generalize hn : (a.toNat - 0xE0) * 0x1000 + tailBits b * 0x40 + tailBits c = n
  rw [tailBits_eq, tailBits_eq] at hn
  -- the second octet rules out both surrogates and numbers for which two octets would do
  have hchar : (Char.ofNat n).toNat = n := toNat_ofNat_char (by omega)
  have ha : UInt8.ofNat (0xE0 + n / 0x1000) = a := octet_eq (by omega)
  have hb : UInt8.ofNat (0x80 + n / 0x40 % 0x40) = b := octet_eq (by omega)
  have hc : UInt8.ofNat (0x80 + n % 0x40) = c := octet_eq (by omega)
  rw [encodeChar_of_three (by omega) (by omega), hchar, ha, hb, hc]

/-- The character of four octets is encoded as those. -/
private theorem encodeChar_four (ha : 0xF0 ≤ a.toNat ∧ a.toNat < 0xF5) (hb : isSecond a b = true)
    (hc : isTail c = true) (hd : isTail d = true) :
    encodeChar (Char.ofNat ((a.toNat - 0xF0) * 0x40000 + tailBits b * 0x1000 + tailBits c * 0x40
      + tailBits d)) = [a, b, c, d] := by
  have hb := isSecond_iff.1 hb
  have hc := isTail_iff.1 hc
  have hd := isTail_iff.1 hd
  generalize hn : (a.toNat - 0xF0) * 0x40000 + tailBits b * 0x1000 + tailBits c * 0x40
    + tailBits d = n
  rw [tailBits_eq, tailBits_eq, tailBits_eq] at hn
  -- the ranges of the octets leave out surrogates and codes that are too large
  have hchar : (Char.ofNat n).toNat = n := toNat_ofNat_char (by omega)
  have ha : UInt8.ofNat (0xF0 + n / 0x40000) = a := octet_eq (by omega)
  have hb : UInt8.ofNat (0x80 + n / 0x1000 % 0x40) = b := octet_eq (by omega)
  have hc : UInt8.ofNat (0x80 + n / 0x40 % 0x40) = c := octet_eq (by omega)
  have hd : UInt8.ofNat (0x80 + n % 0x40) = d := octet_eq (by omega)
  rw [encodeChar_of_four (by omega), hchar, ha, hb, hc, hd]

/-- A text that begins with a character and goes on with what the rest decodes to. -/
theorem encode_of_map_ok {bs : List UInt8} {c : Char} {decoded : Except OctetFault (List Char)}
    {s : List Char} (h : (c :: ·) <$> decoded = .ok s) (ht : ∀ s', decoded = .ok s' → encode s' = t)
    (hc : encodeChar c = bs) : encode s = bs ++ t := by
  cases decoded with
  | error f => cases h
  | ok s' =>
    cases h
    have hcons : encode (c :: s') = encodeChar c ++ encode s' := List.flatMap_cons
    rw [hcons, hc, ht s' rfl]

/-- What the tests on a first octet say of its number. -/
private theorem first_iff : ¬(decide (a < 0xC2) || decide (0xF5 ≤ a)) = true
    ↔ 0xC2 ≤ a.toNat ∧ a.toNat < 0xF5 := by
  simp [UInt8.lt_iff_toNat_lt, UInt8.le_iff_toNat_le]

/-- A text that octets decode to is encoded as these octets. -/
theorem encode_of_decodeFrom {pos : Nat} {bs : List UInt8} {s : List Char}
    (h : decodeFrom pos bs = .ok s) : encode s = bs := by
  -- the cases in which the decoder goes on; in all others it reports a fault
  fun_induction decodeFrom pos bs generalizing s with
  -- no octets are left
  | case1 => cases h; rfl
  -- one octet
  | case2 pos a t ha ih =>
    exact encode_of_map_ok h (fun _ => ih) (encodeChar_one (UInt8.lt_iff_toNat_lt.1 ha))
  -- two octets
  | case5 pos a _ hfirst hlt b t hb ih =>
    have ha := And.intro (first_iff.1 hfirst).1 (UInt8.lt_iff_toNat_lt.1 hlt)
    exact encode_of_map_ok h (fun _ => ih) (encodeChar_two ha hb)
  -- three octets
  | case9 pos a _ hfirst hge hlt b hb c t hc ih =>
    have ha := And.intro (UInt8.le_iff_toNat_le.1 (UInt8.not_lt.1 hge))
      (UInt8.lt_iff_toNat_lt.1 hlt)
    exact encode_of_map_ok h (fun _ => ih) (encodeChar_three ha hb hc)
  -- four octets
  | case15 pos a _ hfirst _ hge b hb c hc d t hd ih =>
    have ha := And.intro (UInt8.le_iff_toNat_le.1 (UInt8.not_lt.1 hge)) (first_iff.1 hfirst).2
    exact encode_of_map_ok h (fun _ => ih) (encodeChar_four ha hb hc hd)
  | _ => cases h

/-- Octets that decode are those of the text that they decode to. -/
theorem encode_of_decode {bs : List UInt8} {s : List Char} (h : decode bs = .ok s) :
    encode s = bs :=
  encode_of_decodeFrom h

end Chronicle.Utf8
