import Chronicle.Octets.Charset
import Chronicle.Proofs.Octets.Utf16
import Chronicle.Proofs.Octets.Utf8

/-!
# Character sets read back

Every text that a character set has octets for is read back from them: `Charset.decode_encode`. The
other way around only octets with the byte order mark of their character set are written again,
because a mark is always written and need not be there to be read: `Charset.encode_of_decode`.
-/
namespace Chronicle.Charset

open Octets

/-- The octets that every text in a character set begins with. -/
def mark : Charset → List UInt8
  | .utf8Signed => utf8Mark
  | .utf16 => [0xFF, 0xFE]
  | .ascii | .latin1 | .utf8 | .utf16le | .utf16be => []

/-! ### One octet for each character -/

/-- A text is encoded octet by octet if each character is below the limit. -/
private theorem encodeSingle_cons {limit : Nat} {c : Char} {s : List Char} {bs : List UInt8}
    (h : encodeSingle limit (c :: s) = some bs) :
    c.toNat < limit ∧ ∃ t, encodeSingle limit s = some t ∧ bs = UInt8.ofNat c.toNat :: t := by
  rw [encodeSingle] at h
  by_cases hc : c.toNat < limit
  · rw [if_pos hc, Option.map_eq_map, Option.map_eq_some_iff] at h
    obtain ⟨t, ht, rfl⟩ := h
    exact ⟨hc, t, ht, rfl⟩
  · rw [if_neg hc] at h
    cases h

/-- A text of ASCII is read back from its octets. -/
private theorem decodeAscii_encodeSingle {s : List Char} {bs : List UInt8} {pos : Nat}
    (h : encodeSingle 0x80 s = some bs) : decodeAscii pos bs = .ok s := by
  induction s generalizing bs pos with
  | nil => cases h; rfl
  | cons c s ih =>
    obtain ⟨hc, t, ht, rfl⟩ := encodeSingle_cons h
    -- the octet has the number of the character
    have hoctet : (UInt8.ofNat c.toNat).toNat = c.toNat := toNat_ofNat_of_lt (by omega)
    have hlt : UInt8.ofNat c.toNat < 0x80 := by
      rw [UInt8.lt_iff_toNat_lt, hoctet]
      exact hc
    rw [decodeAscii, if_pos hlt, ih ht, char_eq hoctet]
    rfl

/-- Octets below `0x100` stand for the characters with their numbers. -/
private theorem map_encodeSingle {s : List Char} {bs : List UInt8}
    (h : encodeSingle 0x100 s = some bs) :
    bs.map (fun b => Char.ofNat b.toNat) = s := by
  induction s generalizing bs with
  | nil => cases h; rfl
  | cons c s ih =>
    obtain ⟨hc, t, ht, rfl⟩ := encodeSingle_cons h
    have hoctet : (UInt8.ofNat c.toNat).toNat = c.toNat := toNat_ofNat_of_lt hc
    rw [List.map_cons, ih ht, char_eq hoctet]

/-- A character below the limit is encoded as the octet with its number. -/
private theorem encodeSingle_octet {limit : Nat} {b : UInt8} {s : List Char}
    (hb : b.toNat < limit) :
    encodeSingle limit (Char.ofNat b.toNat :: s) = (b :: ·) <$> encodeSingle limit s := by
  have hlt := b.toNat_lt
  have hchar : (Char.ofNat b.toNat).toNat = b.toNat := toNat_ofNat_char (by omega)
  rw [encodeSingle, hchar, if_pos hb, UInt8.ofNat_toNat]

/-- Octets that are read as ASCII are those of their text. -/
private theorem encodeSingle_of_decodeAscii {bs : List UInt8} {s : List Char} {pos : Nat}
    (h : decodeAscii pos bs = .ok s) : encodeSingle 0x80 s = some bs := by
  induction bs generalizing s pos with
  | nil => cases h; rfl
  | cons b t ih =>
    rw [decodeAscii] at h
    -- an octet above ASCII is not read at all
    by_cases hb : b < 0x80
    · rw [if_pos hb] at h
      cases hrest : decodeAscii (pos + 1) t with
      | error f => rw [hrest] at h; cases h
      | ok rest =>
        rw [hrest] at h
        cases h
        have hoctet : b.toNat < 0x80 := UInt8.lt_iff_toNat_lt.1 hb
        exact (encodeSingle_octet hoctet).trans (by rw [ih hrest]; rfl)
    · rw [if_neg hb] at h
      cases h

/-- Any octets are those of the characters with their numbers. -/
private theorem encodeSingle_map (bs : List UInt8) :
    encodeSingle 0x100 (bs.map fun b => Char.ofNat b.toNat) = some bs := by
  induction bs with
  | nil => rfl
  | cons b t ih =>
    rw [List.map_cons, encodeSingle_octet b.toNat_lt, ih]
    rfl

/-! ### Byte order marks -/

/-- The mark of the little-endian order is its first two octets. -/
private theorem encode_utf16_mark (s : List Char) :
    Utf16.encode .little ('\uFEFF' :: s) = 0xFF :: 0xFE :: Utf16.encode .little s := by
  rfl

/-- A mark in front is not part of the text. -/
private theorem decode_utf8Signed (t : List UInt8) :
    decode .utf8Signed (utf8Mark ++ t) = Utf8.decode t :=
  rfl

/-- A little-endian mark decides the order of what follows. -/
private theorem decode_utf16 (t : List UInt8) :
    decode .utf16 (0xFF :: 0xFE :: t) = Utf16.decodeFrom .little 2 t :=
  rfl

/-! ### Every character set -/

variable {c : Charset} {s : List Char} {bs : List UInt8}

/-- A text is read back from its octets. -/
theorem decode_encode (h : c.encode s = some bs) : c.decode bs = .ok s := by
  cases c with
  | ascii => exact decodeAscii_encodeSingle h
  | latin1 => rw [decode, map_encodeSingle h]
  | utf8 => cases h; exact Utf8.decode_encode s
  | utf8Signed => cases h; rw [decode_utf8Signed, Utf8.decode_encode]
  | utf16 => cases h; rw [encode_utf16_mark, decode_utf16, Utf16.decodeFrom_encode]
  | utf16le => cases h; exact Utf16.decodeFrom_encode s 0
  | utf16be => cases h; exact Utf16.decodeFrom_encode s 0

/-- What is encoded begins with the mark of its character set. -/
theorem mark_isPrefix_of_encode (h : c.encode s = some bs) : c.mark <+: bs := by
  cases c with
  | utf8Signed => cases h; exact List.prefix_append ..
  | utf16 => cases h; exact ⟨Utf16.encode .little s, (encode_utf16_mark s).symm⟩
  | ascii | latin1 | utf8 | utf16le | utf16be => exact List.nil_prefix

/-- Octets with the mark are those of the text they are read as. -/
private theorem encode_of_mark_isPrefix (hmark : c.mark <+: bs) (h : c.decode bs = .ok s) :
    c.encode s = some bs := by
  cases c with
  | ascii => exact encodeSingle_of_decodeAscii h
  | latin1 => cases h; exact encodeSingle_map bs
  | utf8 => rw [encode, Utf8.encode_of_decode h]
  -- with a mark in front there is one way to read the octets
  | utf8Signed =>
    obtain ⟨t, rfl⟩ := hmark
    rw [mark, decode_utf8Signed] at h
    rw [encode, Utf8.encode_of_decode h, mark]
  -- only the little-endian mark is written
  | utf16 =>
    obtain ⟨t, rfl⟩ := hmark
    have hdecode : Utf16.decodeFrom .little 2 t = .ok s := h
    have ht : Utf16.encode .little s = t := Utf16.encode_of_decodeFrom hdecode
    rw [encode, encode_utf16_mark, ht]
    rfl
  | utf16le => rw [encode, Utf16.encode_of_decodeFrom h]
  | utf16be => rw [encode, Utf16.encode_of_decodeFrom h]

/-- Octets are those of the text that they decode to just if they begin with the mark of their
character set. -/
theorem encode_of_decode (h : c.decode bs = .ok s) : c.encode s = some bs ↔ c.mark <+: bs :=
  ⟨mark_isPrefix_of_encode, fun hmark => encode_of_mark_isPrefix hmark h⟩

end Chronicle.Charset
