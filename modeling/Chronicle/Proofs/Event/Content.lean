import Chronicle.Event.Content
import Chronicle.Proofs.Octets.Base64
import Chronicle.Proofs.Octets.Charset

/-!
# Attachment content read back

A content that was read from a text has a text. The text of a content is read back as that content
just if the content is `Restorable`: written in Base64, or in a character set whose byte order mark,
if it has one, the content begins with.
-/
namespace Chronicle.Content

/-- Whether the text of octets in an encoding stands for these octets and for no others. -/
def Restorable (encoding : String) (bytes : Bytes) : Prop :=
  encoding = base64Name ∨ ∃ c, Charset.ofName encoding = .charset c ∧ c.mark <+: bytes

variable {encoding text : String} {bytes : Bytes}

/-! ### Base64 -/

private theorem encode_base64 :
    encode base64Name bytes = .ok (String.ofList (Base64.encode bytes)) :=
  rfl

private theorem decode_base64 : decode base64Name text = decodeBase64 text.toList :=
  rfl

private theorem decodeBase64_encode (bytes : Bytes) :
    decodeBase64 (Base64.encode bytes) = .ok bytes := by
  have hascii : ∀ c ∈ Base64.encode bytes, c.toNat < 0x80 :=
    Base64.forall_encode (fun _ => Base64.toNat_letter_lt) (by decide) bytes
  have hany : ¬(Base64.encode bytes).any (fun c => 0x80 ≤ c.toNat) = true := by
    rw [List.any_eq_true]
    rintro ⟨c, hc, hge⟩
    exact absurd (hascii c hc) (Nat.not_lt.2 (of_decide_eq_true hge))
  rw [decodeBase64, if_neg hany, Base64.decode_encode]

/-! ### Character sets -/

variable {c : Charset}

private theorem decode_charset (hname : encoding ≠ base64Name)
    (hc : Charset.ofName encoding = .charset c) :
    decode encoding text = .ok bytes ↔ c.encode text.toList = some bytes := by
  rw [decode, if_neg hname, hc]
  dsimp only
  cases c.encode text.toList <;> simp

/-- Only a character set and Base64 stand for octets. -/
private theorem charset_of_decode (hname : encoding ≠ base64Name)
    (h : decode encoding text = .ok bytes) :
    ∃ c, Charset.ofName encoding = .charset c := by
  rw [decode, if_neg hname] at h
  cases hfound : Charset.ofName encoding with
  | charset c => exact ⟨c, rfl⟩
  | notText | unknown | malformed => rw [hfound] at h; cases h

/-- The text of octets in a character set: no octets are the empty text, whatever mark a text should
begin with. -/
private theorem encode_charset (hname : encoding ≠ base64Name)
    (hc : Charset.ofName encoding = .charset c) :
    encode encoding bytes = .ok text ↔
      bytes = [] ∧ text = "" ∨ bytes ≠ [] ∧ c.decode bytes = .ok text.toList := by
  rw [encode, if_neg hname, hc]
  dsimp only
  -- no octets are written as no text, whatever the character set
  cases bytes with
  | nil => simp [eq_comm]
  | cons b rest =>
    cases c.decode (b :: rest) with
    | error f => simp
    | ok s =>
      have hsame : String.ofList s = text ↔ s = text.toList := by
        rw [← String.toList_inj, String.toList_ofList]
      simpa using hsame

/-! ### Read back -/

/-- What was read is restorable, however it was written. -/
theorem restorable_of_decode (h : decode encoding text = .ok bytes) :
    Restorable encoding bytes := by
  by_cases hname : encoding = base64Name
  · exact .inl hname
  · obtain ⟨c, hc⟩ := charset_of_decode hname h
    exact .inr ⟨c, hc, Charset.mark_isPrefix_of_encode ((decode_charset hname hc).1 h)⟩

/-- What was read can be written. -/
theorem exists_encode_of_decode (h : decode encoding text = .ok bytes) :
    ∃ text', encode encoding bytes = .ok text' := by
  by_cases hname : encoding = base64Name
  · rw [hname]
    exact ⟨_, encode_base64⟩
  · obtain ⟨c, hc⟩ := charset_of_decode hname h
    have hread := Charset.decode_encode ((decode_charset hname hc).1 h)
    by_cases hempty : bytes = []
    · exact ⟨"", (encode_charset hname hc).2 (.inl ⟨hempty, rfl⟩)⟩
    · exact ⟨text, (encode_charset hname hc).2 (.inr ⟨hempty, hread⟩)⟩

/-- The text of restorable octets, and of no others, stands for them. -/
theorem decode_of_encode (h : encode encoding bytes = .ok text) :
    decode encoding text = .ok bytes ↔ Restorable encoding bytes := by
  constructor
  · exact restorable_of_decode
  intro hrestorable
  by_cases hname : encoding = base64Name
  -- base64 gives back what it was made of
  · subst hname
    rw [encode_base64] at h
    cases h
    rw [decode_base64, String.toList_ofList, decodeBase64_encode]
  · obtain hbase | ⟨c, hc, hmark⟩ := hrestorable
    · exact absurd hbase hname
    rw [decode_charset hname hc]
    obtain ⟨rfl, rfl⟩ | ⟨-, hread⟩ := (encode_charset hname hc).1 h
    · -- the mark is a prefix of nothing, so the character set has none
      cases c with
      | utf8Signed => cases List.prefix_nil.1 hmark
      | utf16 => cases List.prefix_nil.1 hmark
      | ascii | latin1 | utf8 | utf16le | utf16be => rfl
    · exact (Charset.encode_of_decode hread).2 hmark

end Chronicle.Content
