import Chronicle.Event.Log
import Chronicle.Proofs.Event.RoundTrip
import Mathlib.Data.Option.Basic

/-!
# Rejected event records

Nearly everything that can be wrong with an event record is reported as a rejection of it. Two
things are not: a text in Base64 with a character that is not ASCII, and a NUL in the name of an
encoding. `Event.ofJson_rejects_iff` says that there are no others.
-/
namespace Chronicle

namespace Charset

variable {name : String}

/-- What a table finds is one of its entries. -/
private theorem exists_mem_of_lookup {table : List (String × CharsetName)} {found : CharsetName}
    (h : table.lookup name = some found) : ∃ p ∈ table, p.2 = found := by
  obtain ⟨front, back, rfl, -⟩ := List.lookup_eq_some_iff.1 h
  exact ⟨(name, found), List.mem_append_right front List.mem_cons_self, rfl⟩

private theorem lookup_ne_malformed (normal : List Char) : lookup normal ≠ some .malformed := by
  have hother : ∀ p ∈ otherNames, p.2 ≠ .malformed := by decide
  have hown : ∀ p ∈ ownNames, p.2 ≠ .malformed := by decide
  intro h
  -- a name is looked up in up to three ways, and no table has the entry
  rcases (Option.orElse_eq_some _ _ _).1 h with h | ⟨-, h⟩
  · obtain ⟨p, hp, hmalformed⟩ := exists_mem_of_lookup h
    exact hother p hp hmalformed
  rcases (Option.orElse_eq_some _ _ _).1 h with h | ⟨-, h⟩
  · obtain ⟨p, hp, hmalformed⟩ := exists_mem_of_lookup h
    exact hother p hp hmalformed
  · obtain ⟨p, hp, hmalformed⟩ := exists_mem_of_lookup h
    exact hown p hp hmalformed

/-- Only a NUL keeps a name from being looked up. -/
private theorem ofName_eq_malformed_iff : ofName name = .malformed ↔ '\x00' ∈ name.toList := by
  rw [← List.contains_iff_mem]
  unfold ofName
  by_cases hnul : name.toList.contains '\x00' = true
  · simp only [hnul, if_true]
  simp only [hnul]
  -- without a null character only the tables could say so
  have hne := lookup_ne_malformed (normalName name.toList)
  cases hfound : lookup (normalName name.toList) with
  | none => simp
  | some found =>
    rw [hfound] at hne
    simpa using hne

end Charset

namespace Content

variable {encoding text : String}

/-- Whether decoding a text is not even tried: it has a character that Base64 cannot have, or the
name of its encoding cannot be looked up. -/
def Untried (encoding text : String) : Prop :=
  encoding = base64Name ∧ (∃ c ∈ text.toList, 0x80 ≤ c.toNat)
    ∨ encoding ≠ base64Name ∧ '\x00' ∈ encoding.toList

/-- Whether a fault says that the text is wrong. -/
def DecodeFault.isRejection (f : DecodeFault) : Bool :=
  (EventError.content f).isRejection

private theorem decodeBase64_notAscii_iff {s : List Char} :
    (∃ f, decodeBase64 s = .error f ∧ f.isRejection = false) ↔ ∃ c ∈ s, 0x80 ≤ c.toNat := by
  have hany : (s.any fun c => 0x80 ≤ c.toNat) = true ↔ ∃ c ∈ s, 0x80 ≤ c.toNat := by
    simp only [List.any_eq_true, decide_eq_true_eq]
  unfold decodeBase64
  split
  next h => exact ⟨fun _ => hany.1 h, fun _ => ⟨_, rfl, rfl⟩⟩
  next h =>
    rw [← hany, iff_false_right h]
    -- a text of ASCII that is no base64 is rejected
    rintro ⟨f, hf, hrejection⟩
    cases hdecode : Base64.decode s with
    | some bytes => rw [hdecode] at hf; cases hf
    | none => rw [hdecode] at hf; cases hf; cases hrejection

private theorem exists_untried_iff :
    (∃ f, decode encoding text = .error f ∧ f.isRejection = false) ↔ Untried encoding text := by
  unfold decode Untried
  by_cases hname : encoding = base64Name
  · simp only [hname, if_true, true_and, not_true, false_and, or_false, ne_eq,
      decodeBase64_notAscii_iff]
  simp only [hname, if_false, false_and, false_or, ne_eq, not_false_eq_true, true_and,
    ← Charset.ofName_eq_malformed_iff]
  cases hfound : Charset.ofName encoding with
  | malformed => exact ⟨fun _ => rfl, fun _ => ⟨_, rfl, rfl⟩⟩
  | charset c =>
    refine ⟨?_, nofun⟩
    -- a text that the character set cannot encode is rejected
    rintro ⟨f, hf, hrejection⟩
    cases hencode : c.encode text.toList with
    | some bytes => simp only [hencode] at hf; cases hf
    | none => simp only [hencode] at hf; cases hf; cases hrejection
  -- an encoding that is no known character set is rejected at once
  | notText | unknown =>
    refine ⟨?_, nofun⟩
    rintro ⟨f, ⟨⟩, ⟨⟩⟩

end Content

namespace Event

variable {v : Json}

private theorem bind_eq_error {ε α β : Type} {x : Except ε α} {f : α → Except ε β} {e : ε} :
    x >>= f = .error e ↔ x = .error e ∨ ∃ a, x = .ok a ∧ f a = .error e := by
  cases x with
  | error e' => simp [bind, Except.bind]
  | ok a => simp [bind, Except.bind]

private theorem mapError_eq_error {ε ε' α : Type} {f : ε → ε'} {x : Except ε α} {e' : ε'} :
    x.mapError f = .error e' ↔ ∃ e, x = .error e ∧ f e = e' := by
  cases x with
  | error e =>
    have herror : (Except.error e : Except ε α).mapError f = .error (f e) := rfl
    simp [herror]
  | ok a =>
    have hok : (Except.ok a : Except ε α).mapError f = .ok a := rfl
    simp [hok]

/-- Whether a record is that of an attachment, and which text in which encoding it holds. -/
def HoldsText (v : Json) (encoding text : String) : Prop :=
  ∃ contextId data name contentType, ofRecord v = .ok (contextId, .attachment, data)
    ∧ draft data .attachment = .ok (.attachment name text contentType encoding)

private theorem kind_of_draft {ms : Members} {kind : MessageKind}
    {name text contentType encoding : String}
    (h : draft ms kind = .ok (.attachment name text contentType encoding)) :
    kind = .attachment := by
  cases kind <;> simp [draft, bind_eq_ok, pure, Except.pure] at h ⊢

/-- A message that breaks a rule is rejected, and so the text of an attachment decides. -/
private theorem finish_not_isRejection_iff {d : Draft} :
    (∃ e, d.finish = .error e ∧ e.isRejection = false) ↔
      ∃ name text contentType encoding, d = .attachment name text contentType encoding
        ∧ Content.Untried encoding text := by
  -- a message that is not sound is rejected
  have hchecked : ∀ {m : Message} {e : EventError}, m.checked.mapError .defect = .error e →
      e.isRejection = true := by
    intro m e h
    obtain ⟨defect, -, rfl⟩ := mapError_eq_error.1 h
    rfl
  constructor
  · rintro ⟨e, he, hrejection⟩
    cases d with
    | message m =>
      rw [hchecked he] at hrejection
      cases hrejection
    | attachment name text contentType encoding =>
      refine ⟨name, text, contentType, encoding, rfl, ?_⟩
      -- the reading of the octets is left, since the check only rejects
      obtain hcontent | ⟨bytes, -, hfinish⟩ := bind_eq_error.1 he
      · obtain ⟨f, hf, rfl⟩ := mapError_eq_error.1 hcontent
        exact Content.exists_untried_iff.1 ⟨f, hf, hrejection⟩
      · rw [hchecked hfinish] at hrejection
        cases hrejection
  · rintro ⟨name, text, contentType, encoding, rfl, huntried⟩
    obtain ⟨f, hf, hrejection⟩ := Content.exists_untried_iff.2 huntried
    have hcontent : (Content.decode encoding text).mapError .content
        = .error (EventError.content f) := mapError_eq_error.2 ⟨f, hf, rfl⟩
    exact ⟨.content f, bind_eq_error.2 (.inl hcontent), hrejection⟩

/-- Reading an event fails otherwise than by a rejection just if the event is an attachment whose
text is not even tried. -/
private theorem exists_not_isRejection_iff :
    (∃ e, ofJson v = .error e ∧ e.isRejection = false) ↔
      ∃ encoding text, HoldsText v encoding text ∧ Content.Untried encoding text := by
  constructor
  · rintro ⟨e, he, hrejection⟩
    -- a failure to read the record or its data is a rejection
    obtain hrecord | ⟨⟨contextId, kind, data⟩, hrecord, he⟩ := bind_eq_error.1 he
    · obtain ⟨f, -, rfl⟩ := mapError_eq_error.1 hrecord
      cases hrejection
    obtain hdata | ⟨d, hdraft, he⟩ := bind_eq_error.1 he
    · obtain ⟨f, -, rfl⟩ := mapError_eq_error.1 hdata
      cases hrejection
    obtain hfinish | ⟨m, -, hm⟩ := bind_eq_error.1 he
    · obtain ⟨name, text, contentType, encoding, rfl, huntried⟩ :=
        finish_not_isRejection_iff.1 ⟨e, hfinish, hrejection⟩
      -- only an attachment is drafted as one, so the record holds the text
      have hdraft := mapError_eq_ok.1 hdraft
      obtain rfl := kind_of_draft hdraft
      exact ⟨encoding, text, ⟨contextId, data, name, contentType, mapError_eq_ok.1 hrecord, hdraft⟩,
        huntried⟩
    · cases hm
  · rintro ⟨encoding, text, ⟨contextId, data, name, contentType, hrecord, hdraft⟩, huntried⟩
    obtain ⟨e, he, hrejection⟩ :=
      finish_not_isRejection_iff.2 ⟨name, text, contentType, encoding, rfl, huntried⟩
    refine ⟨e, ?_, hrejection⟩
    unfold ofJson
    refine bind_eq_error.2 (.inr ⟨_, mapError_eq_ok.2 hrecord, ?_⟩)
    exact bind_eq_error.2 (.inr ⟨_, mapError_eq_ok.2 hdraft, bind_eq_error.2 (.inl he)⟩)

/-- Every JSON value is read as an event or rejected, unless it is an attachment whose text is not
even tried. -/
theorem ofJson_rejects_iff (v : Json) :
    ((∃ e, ofJson v = .ok e) ∨ ∃ e, ofJson v = .error e ∧ e.isRejection = true) ↔
      ¬∃ encoding text, HoldsText v encoding text ∧ Content.Untried encoding text := by
  rw [← exists_not_isRejection_iff]
  cases ofJson v with
  | ok e => simp
  | error e => simp

/-- A content of one letter that is not ASCII is no Base64, but its record is not rejected. -/
theorem ofJson_of_accent :
    ∃ e, ofJson (.obj [("type", .str "attachment"), ("data", .obj [("name", .str "a"),
        ("content", .str "é"), ("content_type", .str "t")])]) = .error e
      ∧ e.isRejection = false
      ∧ e.message = "string argument should contain only ASCII characters" :=
  ⟨.content .notAscii, rfl, rfl, rfl⟩

end Event

/-- A line of an event log fails without its place just if it is a record like that. -/
private theorem EventLog.exists_untried_iff {path : Path} {number : Nat} {line : List Char} :
    (∃ e, readLine path number line = .error (.untried e)) ↔
      Text.trim Text.isBlank line ≠ [] ∧ ∃ v, Json.parse (Text.trim Text.isBlank line) = .ok v
        ∧ ∃ encoding text, Event.HoldsText v encoding text ∧ Content.Untried encoding text := by
  unfold readLine
  by_cases hblank : Text.trim Text.isBlank line = []
  · simp [hblank]
  -- a line that is blank or no JSON holds no event to fail on
  cases hparse : Json.parse (Text.trim Text.isBlank line) with
  | error f => cases f <;> simp [hblank, hparse]
  | ok v =>
    have hblank' : (Text.trim Text.isBlank line).isEmpty = false := by simpa using hblank
    -- what is said of the text is said of the event that is read from it
    simp only [hblank', ← Event.exists_not_isRejection_iff, ne_eq, hblank, not_false_eq_true,
      true_and, Except.ok.injEq, exists_eq_left']
    cases hevent : Event.ofJson v with
    | ok e => simp [hparse, hevent]
    | error e => cases hrejection : e.isRejection <;> simp [hparse, hevent, hrejection]

end Chronicle
