import Chronicle.Octets.Utf16
import Chronicle.Proofs.Octets.Number

/-!
# UTF-16 read back

In either order of octets every text is read back, and octets that decode are those of the text
that they decode to: `Utf16.decodeFrom_encode` and `Utf16.encode_of_decodeFrom`.
-/
namespace Chronicle.Utf16

open Octets

/-! ### Units -/

variable {order : ByteOrder}

private theorem unit_lt (order : ByteOrder) (a b : UInt8) : order.unit a b < 0x10000 := by
  have ha := a.toNat_lt
  have hb := b.toNat_lt
  cases order <;> simp only [ByteOrder.unit] <;> omega

/-- The two octets that a unit below 2 ^ 16 consists of. -/
private theorem exists_octets (order : ByteOrder) {u : Nat} (hu : u < 0x10000) :
    ∃ a b, order.octets u = [a, b] ∧ order.unit a b = u := by
  -- both halves are octets
  have hlow : (UInt8.ofNat (u % 256)).toNat = u % 256 := toNat_ofNat_of_lt (by omega)
  have hhigh : (UInt8.ofNat (u / 256)).toNat = u / 256 := toNat_ofNat_of_lt (by omega)
  cases order with
  | little =>
    refine ⟨_, _, rfl, ?_⟩
    rw [ByteOrder.unit, hlow, hhigh]
    omega
  | big =>
    refine ⟨_, _, rfl, ?_⟩
    rw [ByteOrder.unit, hlow, hhigh]
    omega

private theorem octets_unit (a b : UInt8) : order.octets (order.unit a b) = [a, b] := by
  have ha := a.toNat_lt
  have hb := b.toNat_lt
  -- the order only decides which half comes first
  cases order with
  | little =>
    have hlow : UInt8.ofNat ((b.toNat * 256 + a.toNat) % 256) = a := octet_eq (by omega)
    have hhigh : UInt8.ofNat ((b.toNat * 256 + a.toNat) / 256) = b := octet_eq (by omega)
    rw [ByteOrder.unit, ByteOrder.octets, hlow, hhigh]
  | big =>
    have hlow : UInt8.ofNat ((a.toNat * 256 + b.toNat) % 256) = b := octet_eq (by omega)
    have hhigh : UInt8.ofNat ((a.toNat * 256 + b.toNat) / 256) = a := octet_eq (by omega)
    rw [ByteOrder.unit, ByteOrder.octets, hlow, hhigh]

/-! ### Single characters -/

variable {a b c d : UInt8} {pos : Nat} {t : List UInt8}

private theorem units_of_one {ch : Char} (h : ch.toNat < 0x10000) : units ch = [ch.toNat] := by
  rw [units, if_pos h]

private theorem units_of_two {ch : Char} (h : ¬ch.toNat < 0x10000) :
    units ch = [0xD800 + (ch.toNat - 0x10000) / 0x400, 0xDC00 + (ch.toNat - 0x10000) % 0x400] := by
  rw [units, if_neg h]

theorem decodeFrom_one (h : order.unit a b < 0xD800 ∨ 0xE000 ≤ order.unit a b) :
    decodeFrom order pos (a :: b :: t)
      = (Char.ofNat (order.unit a b) :: ·) <$> decodeFrom order (pos + 2) t := by
  rw [decodeFrom.eq_def]
  simp [h]

theorem decodeFrom_two (h : 0xD800 ≤ order.unit a b ∧ order.unit a b < 0xDC00)
    (h' : 0xDC00 ≤ order.unit c d ∧ order.unit c d < 0xE000) :
    decodeFrom order pos (a :: b :: c :: d :: t)
      = (Char.ofNat (0x10000 + (order.unit a b - 0xD800) * 0x400 + (order.unit c d - 0xDC00)) :: ·)
        <$> decodeFrom order (pos + 4) t := by
  have hlow : ¬order.unit a b < 0xD800 := by omega
  have hhigh : ¬0xE000 ≤ order.unit a b := by omega
  have hlead : ¬0xDC00 ≤ order.unit a b := by omega
  rw [decodeFrom.eq_def]
  simp only [hlow, hhigh, hlead, h', decide_true, decide_false, Bool.or_self, Bool.and_self,
    Bool.false_eq_true, if_false, if_true]

/-! ### Texts read back -/

/-- The octets of a character. -/
private theorem decodeFrom_units (order : ByteOrder) (ch : Char) (pos : Nat) (t : List UInt8) :
    ∃ pos', decodeFrom order pos ((units ch).flatMap order.octets ++ t)
      = (ch :: ·) <$> decodeFrom order pos' t := by
  have hvalid := toNat_char ch
  -- a character of the first plane is one unit, and any other is a pair of surrogates
  by_cases hone : ch.toNat < 0x10000
  · obtain ⟨a, b, hoctets, hunit⟩ := exists_octets order hone
    refine ⟨pos + 2, ?_⟩
    rw [units_of_one hone, List.flatMap_singleton, hoctets, List.cons_append, List.singleton_append,
      decodeFrom_one (by omega), char_eq hunit]
  · obtain ⟨a, b, hlead, hunit⟩ := exists_octets order
      (u := 0xD800 + (ch.toNat - 0x10000) / 0x400) (by omega)
    obtain ⟨c, d, htrail, hunit'⟩ := exists_octets order
      (u := 0xDC00 + (ch.toNat - 0x10000) % 0x400) (by omega)
    -- the two halves put together again
    have hchar : 0x10000 + (order.unit a b - 0xD800) * 0x400 + (order.unit c d - 0xDC00)
        = ch.toNat := by omega
    refine ⟨pos + 4, ?_⟩
    rw [units_of_two hone, List.flatMap_cons, List.flatMap_singleton, hlead, htrail]
    simp only [List.cons_append, List.nil_append]
    -- the first unit is a lead and the second a trail, so the decoder takes both
    rw [decodeFrom_two (by omega) (by omega), char_eq hchar]

/-- A text is read back from its octets. -/
theorem decodeFrom_encode (s : List Char) (pos : Nat) :
    decodeFrom order pos (encode order s) = .ok s := by
  induction s generalizing pos with
  | nil => rw [encode, List.flatMap_nil, decodeFrom]
  | cons ch rest ih =>
    have hcons : encode order (ch :: rest) = (units ch).flatMap order.octets ++ encode order rest :=
      List.flatMap_cons
    obtain ⟨pos', hrun⟩ := decodeFrom_units order ch pos (encode order rest)
    rw [hcons, hrun, ih]
    rfl

/-! ### Octets written again -/

/-- A text that begins with a character and goes on with what the rest decodes to. -/
theorem encode_of_map_ok {bs : List UInt8} {ch : Char} {decoded : Except OctetFault (List Char)}
    {s : List Char} (h : (ch :: ·) <$> decoded = .ok s)
    (ht : ∀ s', decoded = .ok s' → encode order s' = t)
    (hc : (units ch).flatMap order.octets = bs) : encode order s = bs ++ t := by
  cases decoded with
  | error f => cases h
  | ok s' =>
    cases h
    have hcons : encode order (ch :: s') = (units ch).flatMap order.octets ++ encode order s' :=
      List.flatMap_cons
    rw [hcons, hc, ht s' rfl]

private theorem octets_one (h : order.unit a b < 0xD800 ∨ 0xE000 ≤ order.unit a b) :
    (units (Char.ofNat (order.unit a b))).flatMap order.octets = [a, b] := by
  have hlt := unit_lt order a b
  have hchar : (Char.ofNat (order.unit a b)).toNat = order.unit a b := toNat_ofNat_char (by omega)
  rw [units_of_one (by omega), List.flatMap_singleton, hchar, octets_unit]

private theorem octets_two (h : 0xD800 ≤ order.unit a b ∧ order.unit a b < 0xDC00)
    (h' : 0xDC00 ≤ order.unit c d ∧ order.unit c d < 0xE000) :
    (units (Char.ofNat (0x10000 + (order.unit a b - 0xD800) * 0x400
      + (order.unit c d - 0xDC00)))).flatMap order.octets = [a, b, c, d] := by
  generalize hn : 0x10000 + (order.unit a b - 0xD800) * 0x400 + (order.unit c d - 0xDC00) = n
  have hchar : (Char.ofNat n).toNat = n := toNat_ofNat_char (by omega)
  have hlead : 0xD800 + (n - 0x10000) / 0x400 = order.unit a b := by omega
  have htrail : 0xDC00 + (n - 0x10000) % 0x400 = order.unit c d := by omega
  rw [units_of_two (by omega), hchar, hlead, htrail, List.flatMap_cons, List.flatMap_singleton,
    octets_unit, octets_unit]
  rfl

/-- Octets that decode are those of the text that they decode to. -/
theorem encode_of_decodeFrom {pos : Nat} {bs : List UInt8} {s : List Char}
    (h : decodeFrom order pos bs = .ok s) : encode order s = bs := by
  fun_induction decodeFrom order pos bs generalizing s <;> try cases h
  -- the cases in which the decoder goes on; in all others it reports a fault
  case case1 => rfl
  case case3 pos a b t u hu ih =>
    have hunit : u < 0xD800 ∨ 0xE000 ≤ u := by simpa using hu
    exact encode_of_map_ok h (fun _ => ih) (octets_one hunit)
  case case7 pos a b u hu hlead c d t v hv ih =>
    have hfirst : 0xD800 ≤ u ∧ u < 0xDC00 := by
      have hrange : ¬(u < 0xD800 ∨ 0xE000 ≤ u) := by simpa using hu
      omega
    have hsecond : 0xDC00 ≤ v ∧ v < 0xE000 := by simpa using hv
    exact encode_of_map_ok h (fun _ => ih) (octets_two hfirst hsecond)

end Chronicle.Utf16
