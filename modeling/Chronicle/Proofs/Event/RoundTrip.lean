import Chronicle.Event.Writer
import Chronicle.Proofs.Event.Content

/-!
# Event records read back

`Event.ofJson` reads the record that `Event.toJson` writes. The fields of a message are always read
back; its octets are if they are restorable (`Event.ofJson_toJson`). Octets that were read are, and
so reading an event and writing it again leads to a record that stays the same from then on
(`Event.ofJson_normalForm`).
-/
namespace Chronicle

open Schema (Fault)

/-! ### Fields among members -/

namespace Field

open Event (member member?)

variable {α : Type} {f g : Field} {v : Json} {ms : Members}

/-- A member of another name is passed over by a look-up under several names. -/
private theorem findSome?_member_of_not_mem {keys : List String} {k : String} (hk : k ∉ keys) :
    keys.findSome? (Json.member? ((k, v) :: ms)) = keys.findSome? (Json.member? ms) := by
  induction keys with
  | nil => rfl
  | cons key keys ih =>
    have hne : (key == k) = false := by
      rw [beq_eq_false_iff_ne]
      rintro rfl
      exact hk List.mem_cons_self
    -- the first key is none of the member, nor are the others
    have hhead : Json.member? ((k, v) :: ms) key = Json.member? ms key := by
      rw [Json.member?, List.lookup_cons, hne]
      rfl
    rw [List.findSome?_cons, List.findSome?_cons, hhead, ih fun h => hk (List.mem_cons_of_mem _ h)]

/-- No field is found in a record without members. -/
@[simp] theorem find?_nil : f.find? [] = none :=
  List.findSome?_eq_none_iff.2 fun _ _ => rfl

/-- A field finds the member that was written for it. -/
@[simp] theorem find?_member_self : f.find? (member f v :: ms) = some v := by
  rw [find?, keys, List.findSome?_cons, member, Json.member?, List.lookup_cons_self]

/-- A field passes over a member that was written for another. -/
@[simp] theorem find?_member_of_not_mem (hg : g.key ∉ f.keys) :
    f.find? (member g v :: ms) = f.find? ms :=
  findSome?_member_of_not_mem hg

/-- A field passes over what was written for another, present or left out. -/
@[simp] theorem find?_member?_of_not_mem {v : Option Json} (hg : g.key ∉ f.keys) :
    f.find? (member? g v ++ ms) = f.find? ms := by
  cases v with
  | none => rfl
  | some v => exact find?_member_of_not_mem hg

/-- Of a member that may be left out the field finds what was written, or nothing. -/
private theorem find?_member?_self {v : Option Json} (hms : f.find? ms = none) :
    f.find? (member? f v ++ ms) = v := by
  cases v with
  | none => exact hms
  | some v => exact find?_member_self

/-! Reading a field passes over the members of all others. -/

section Readers

variable {absent : α} {read : Json → Except Fault α}

/-- A required field is read from the member written for it. -/
@[simp] theorem required_member_self : f.required read (member f v :: ms) = read v := by
  rw [required, find?_member_self]

/-- A required field is read past the members of others. -/
@[simp] theorem required_member_of_not_mem (hg : g.key ∉ f.keys) :
    f.required read (member g v :: ms) = f.required read ms := by
  rw [required, required, find?_member_of_not_mem hg]

/-- A field with a default takes it where the record has no members left. -/
@[simp] theorem withDefault_nil : f.withDefault absent read [] = .ok absent := by
  rw [withDefault, find?_nil]

/-- A field with a default is read from the member written for it, if there is one. -/
@[simp] theorem withDefault_member_self :
    f.withDefault absent read (member f v :: ms) = read v := by
  rw [withDefault, find?_member_self]

/-- A field with a default is read past the members of others. -/
@[simp] theorem withDefault_member_of_not_mem (hg : g.key ∉ f.keys) :
    f.withDefault absent read (member g v :: ms) = f.withDefault absent read ms := by
  rw [withDefault, withDefault, find?_member_of_not_mem hg]

/-- A field with a default is read past what others may have left out. -/
@[simp] theorem withDefault_member?_of_not_mem {v : Option Json} (hg : g.key ∉ f.keys) :
    f.withDefault absent read (member? g v ++ ms) = f.withDefault absent read ms := by
  rw [withDefault, withDefault, find?_member?_of_not_mem hg]

end Readers

/-- A field without a value is left out, and is then read as no value. -/
private theorem withDefault_member?_self {β : Type} {write : β → Json}
    {read : Json → Except Fault (Option β)}
    (hread : ∀ b, read (write b) = .ok (some b)) (hms : f.find? ms = none) (a : Option β) :
    f.withDefault none read (member? f (a.map write) ++ ms) = .ok a := by
  rw [withDefault, find?_member?_self hms]
  cases a with
  | none => rfl
  | some b => exact hread b

end Field

namespace Event

/-! ### Values read back -/

/-- A reading that has succeeded goes on with what it has read. -/
@[simp] theorem ok_bind {α β : Type} (a : α) (f : α → Except Fault β) :
    (Except.ok a >>= f) = f a :=
  rfl

/-- A reading that has succeeded may be changed in its outcome. -/
@[simp] theorem map_ok {α β : Type} (f : α → β) (a : α) :
    f <$> (Except.ok a : Except Fault α) = .ok (f a) :=
  rfl

/-- Two steps succeed together where both do, the second on what the first gives. -/
theorem bind_eq_ok {ε α β : Type} {x : Except ε α} {f : α → Except ε β} {b : β} :
    x >>= f = .ok b ↔ ∃ a, x = .ok a ∧ f a = .ok b := by
  cases x with
  | error e =>
    constructor
    · rintro ⟨⟩
    · rintro ⟨a, ⟨⟩, -⟩
  | ok a =>
    constructor
    · intro h
      exact ⟨a, rfl, h⟩
    · rintro ⟨a', ⟨⟩, h⟩
      exact h

/-- Text is read as itself. -/
@[simp] theorem scalar_text (s : String) : scalar Schema.text (.str s) = .ok s :=
  rfl

/-- An integer is read as itself. -/
@[simp] theorem scalar_integer (i : Int) : scalar Schema.integer (.int i) = .ok i :=
  rfl

/-- A truth value is read as itself. -/
@[simp] theorem scalar_boolean (b : Bool) : scalar Schema.boolean (.bool b) = .ok b :=
  rfl

/-- A word of a vocabulary is read back as what it stands for. -/
@[simp] theorem scalar_word {α : Type} [Vocabulary α] (a : α) :
    scalar (Schema.word α) (wordValue a) = .ok a := by
  rw [scalar, wordValue, Json.scalar, Schema.word, Vocabulary.ofWord?_word]

/-- The same for a word that may be null. -/
@[simp] theorem scalar_word? {α : Type} [Vocabulary α] (a : α) :
    scalar (Schema.word? α) (wordValue a) = .ok (some a) := by
  have hword : scalar (Schema.word? α) (wordValue a)
      = some <$> scalar (Schema.word α) (wordValue a) := rfl
  rw [hword, scalar_word]
  rfl

/-- The same for text that may be null. -/
@[simp] theorem scalar_text? (s : Option String) : scalar Schema.text? (.ofText? s) = .ok s := by
  cases s <;> rfl

/-- Status details are read back from the record written for them. -/
@[simp] theorem details_detailsValue (d : StatusDetails) :
    details (detailsValue d) = .ok (some d) := by
  rw [detailsValue, details, Field.withDefault_member_self,
    Field.withDefault_member_of_not_mem (by decide), Field.withDefault_member_self, scalar_text?,
    scalar_text?]
  rfl

/-- A pair of a name and a value is read back, whatever is made of it. -/
@[simp] theorem nameValue_pairValue {α : Type} (make : String → String → α) (name value : String) :
    nameValue make (pairValue name value) = .ok (make name value) := by
  rw [pairValue, nameValue, Field.required_member_self,
    Field.required_member_of_not_mem (by decide), Field.required_member_self]
  rfl

/-- A list is read back if each of its entries is. -/
private theorem list_map {α : Type} {read : Json → Except Fault α} {write : α → Json}
    (hread : ∀ a, read (write a) = .ok a) (as : List α) :
    list read (.arr (as.map write)) = .ok as := by
  rw [list]
  induction as with
  | nil => rfl
  | cons a as ih =>
    rw [List.map_cons, List.mapM_cons, hread, ih]
    rfl

/-! ### Messages read back -/

/-- What is read of a message when it was written: everything, but of an attachment the text. -/
inductive Draft.Writes : Message → Draft → Prop
  | message (m : Message) (hm : ∀ file, m ≠ .entry (.attachment file)) :
    Writes m (.message m)
  | attachment (file : Attachment) (content : String)
    (hcontent : Content.encode file.encoding file.content = .ok content) :
    Writes (.entry (.attachment file))
      (.attachment file.name content file.contentType file.encoding)

/-- What went wrong is the last member where it is one. -/
private theorem withDefault_details (d : Option StatusDetails) :
    Field.details.withDefault none details (member? Field.details (d.map detailsValue))
      = .ok d := by
  rw [← List.append_nil (member? Field.details _)]
  exact Field.withDefault_member?_self details_detailsValue Field.find?_nil d

/-- The duration of an ending is read back, given or not, in front of the details. -/
private theorem withDefault_duration (duration : Option Int) (d : Option Json) :
    Field.duration.withDefault none (scalar Schema.integer?)
      (member? Field.duration (duration.map .int) ++ member? Field.details d) = .ok duration := by
  have hdetails : Field.duration.find? (member? Field.details d) = none := by
    rw [← List.append_nil (member? Field.details d), Field.find?_member?_of_not_mem (by decide),
      Field.find?_nil]
  exact Field.withDefault_member?_self (fun _ => rfl) hdetails duration

/-- The stage of an ending is read back, given or not, in front of the rest. -/
private theorem withDefault_stage (stage : Option Stage) (duration d : Option Json) :
    Field.stage.withDefault none (scalar (Schema.word? Stage))
      (member? Field.stage (stage.map wordValue)
        ++ (member? Field.duration duration ++ member? Field.details d)) = .ok stage := by
  have hrest : Field.stage.find? (member? Field.duration duration ++ member? Field.details d)
      = none := by
    rw [← List.append_nil (member? Field.details d), Field.find?_member?_of_not_mem (by decide),
      Field.find?_member?_of_not_mem (by decide), Field.find?_nil]
  exact Field.withDefault_member?_self scalar_word? hrest stage

/-- What is drafted from the record of an entry stands for the entry. -/
private theorem draft_entryData {e : TestEntry} {data : Members} (h : entryData e = .ok data) :
    ∃ d, draft data e.kind = .ok d ∧ Draft.Writes (.entry e) d := by
  cases e with
  | stepStart name start =>
    cases h
    refine ⟨_, ?_, .message (.entry (.stepStart name start)) nofun⟩
    simp (disch := decide) [draft, TestEntry.kind]
  | stepStop status stop d =>
    cases h
    refine ⟨_, ?_, .message (.entry (.stepStop status stop d)) nofun⟩
    simp (disch := decide) [draft, TestEntry.kind, withDefault_details]
  | metadata labels parameters =>
    cases h
    -- the two lists are read back entry by entry
    have hlabels := list_map (fun l : Label => nameValue_pairValue Label.mk l.name l.value) labels
    have hparameters :=
      list_map (fun p : Parameter => nameValue_pairValue Parameter.mk p.name p.value) parameters
    refine ⟨_, ?_, .message (.entry (.metadata labels parameters)) nofun⟩
    simp (disch := decide) [draft, TestEntry.kind, hlabels, hparameters]
  | attachment file =>
    rw [entryData] at h
    cases hcontent : Content.encode file.encoding file.content with
    | error f => rw [hcontent] at h; cases h
    | ok content =>
      rw [hcontent] at h
      cases h
      -- an attachment is drafted with its text as it stands: the octets are read only at the end
      refine ⟨_, ?_, .attachment file content hcontent⟩
      simp (disch := decide) [draft, TestEntry.kind]

/-- Everything that is written of a message is read back. -/
private theorem draft_messageData {m : Message} {data : Members} (h : messageData m = .ok data) :
    ∃ d, draft data m.kind = .ok d ∧ Draft.Writes m d := by
  cases m with
  -- one goal for each kind of message: the draft is computed and compared with what was written
  | entry e => exact draft_entryData h
  | suiteStart name isFeature =>
    cases h
    refine ⟨_, ?_, .message (.suiteStart name isFeature) nofun⟩
    simp (disch := decide) [draft, Message.kind]
  | suiteEnd =>
    cases h
    exact ⟨_, rfl, .message .suiteEnd nofun⟩
  | testStart name start =>
    cases h
    refine ⟨_, ?_, .message (.testStart name start) nofun⟩
    simp (disch := decide) [draft, Message.kind]
  | testInfo fullName =>
    cases h
    refine ⟨_, ?_, .message (.testInfo fullName) nofun⟩
    simp (disch := decide) [draft, Message.kind]
  -- the fields that may be missing are read back from the end on
  | testEnd e =>
    cases h
    refine ⟨_, ?_, .message (.testEnd e) nofun⟩
    simp (disch := decide) [draft, Message.kind, withDefault_stage, withDefault_duration,
      withDefault_details]
  | hookStart name kind start =>
    cases h
    refine ⟨_, ?_, .message (.hookStart name kind start) nofun⟩
    simp (disch := decide) [draft, Message.kind]
  | hookEnd e =>
    cases h
    refine ⟨_, ?_, .message (.hookEnd e) nofun⟩
    simp (disch := decide) [draft, Message.kind, withDefault_duration, withDefault_details]

/-! ### Records read back -/

/-- A record is a dictionary. -/
@[simp] theorem dictionary_obj (data : Members) : dictionary (.obj data) = .ok data :=
  rfl

/-- The outer record of an event is read back, with and without its context. -/
private theorem ofRecord_record (contextId : Option String) (kind : MessageKind) (data : Members) :
    ofRecord (.obj ([member Field.kind (wordValue kind), member Field.data (.obj data)]
      ++ member? Field.contextId (contextId.map .str))) = .ok (contextId, kind, data) := by
  -- the context may be left out, so the record ends with it
  have hcontext : Field.contextId.withDefault none (scalar Schema.text?)
      (member? Field.contextId (contextId.map .str)) = .ok contextId := by
    rw [← List.append_nil (member? Field.contextId _)]
    exact Field.withDefault_member?_self (fun _ => rfl) Field.find?_nil contextId
  -- no key is foreign to a record
  have hkeys : (member Field.kind (wordValue kind) :: member Field.data (.obj data)
      :: member? Field.contextId (contextId.map .str)).all (fun m => recordKeys.contains m.1)
        = true := by
    cases contextId <;> simp [member, member?, recordKeys]
  rw [List.cons_append, List.singleton_append, ofRecord, hkeys]
  simp (disch := decide) [hcontext]

/-- Rewording the failure leaves the success as it is. -/
theorem mapError_eq_ok {ε ε' α : Type} {f : ε → ε'} {x : Except ε α} {a : α} :
    x.mapError f = .ok a ↔ x = .ok a := by
  cases x with
  | ok b =>
    have hok : (Except.ok b : Except ε α).mapError f = .ok b := rfl
    rw [hok, Except.ok.injEq, Except.ok.injEq]
  | error e => exact ⟨nofun, nofun⟩

/-- An event is written where its message is, inside the outer record. -/
private theorem toJson_eq_ok {e : Event} {v : Json} :
    toJson e = .ok v ↔ ∃ data, messageData e.message = .ok data
      ∧ .obj ([member Field.kind (wordValue e.message.kind), member Field.data (.obj data)]
        ++ member? Field.contextId (e.contextId.map .str)) = v := by
  rw [toJson, bind_eq_ok]
  constructor
  · rintro ⟨data, hdata, ⟨⟩⟩
    exact ⟨data, hdata, rfl⟩
  · rintro ⟨data, hdata, rfl⟩
    exact ⟨data, hdata, rfl⟩

/-- An event is read in three steps: the record, the draft, and its completion. -/
private theorem ofJson_eq_ok {v : Json} {e : Event} :
    ofJson v = .ok e ↔ ∃ kind data d, ofRecord v = .ok (e.contextId, kind, data)
      ∧ draft data kind = .ok d ∧ d.finish = .ok e.message := by
  simp only [ofJson, bind_eq_ok, mapError_eq_ok]
  constructor
  · rintro ⟨⟨contextId, kind, data⟩, hrecord, d, hdraft, m, hfinish, ⟨⟩⟩
    exact ⟨kind, data, d, hrecord, hdraft, hfinish⟩
  · rintro ⟨kind, data, d, hrecord, hdraft, hfinish⟩
    exact ⟨_, hrecord, d, hdraft, e.message, hfinish, rfl⟩

/-! ### Messages with octets -/

/-- Whether the text of a message's octets, if it has any, stands for these octets. -/
def Restorable (m : Message) : Prop :=
  ∀ file, m = .entry (.attachment file) → Content.Restorable file.encoding file.content

/-- An attachment alone can fail to be restorable, and does by its octets. -/
private theorem restorable_attachment {file : Attachment} :
    Restorable (.entry (.attachment file)) ↔ Content.Restorable file.encoding file.content := by
  constructor
  · intro h
    exact h file rfl
  · rintro h file' ⟨⟩
    exact h

/-- A draft without octets to read is completed as the message it is, if that is sound. -/
private theorem finish_message {m n : Message} :
    (Draft.message m).finish = .ok n ↔ m.Sound ∧ n = m := by
  rw [Draft.finish, mapError_eq_ok, Message.checked_eq_ok_iff]

/-- A drafted attachment is completed by reading its octets. -/
private theorem finish_attachment {name content contentType encoding : String} {m : Message} :
    (Draft.attachment name content contentType encoding).finish = .ok m ↔
      ∃ bytes, Content.decode encoding content = .ok bytes ∧ m.Sound
        ∧ m = .entry (.attachment ⟨name, bytes, contentType, encoding⟩) := by
  simp only [Draft.finish, bind_eq_ok, mapError_eq_ok, Message.checked_eq_ok_iff]
  constructor
  · rintro ⟨bytes, hcontent, hsound, rfl⟩
    exact ⟨bytes, hcontent, hsound, rfl⟩
  · rintro ⟨bytes, hcontent, hsound, rfl⟩
    exact ⟨bytes, hcontent, hsound, rfl⟩

/-- What a message was written as is finished to that message if its octets are restorable. -/
private theorem finish_of_writes {m : Message} {d : Draft} (h : Draft.Writes m d) (hm : m.Sound) :
    d.finish = .ok m ↔ Restorable m := by
  cases h with
  -- without octets there is nothing to restore
  | message m hkind =>
    rw [finish_message]
    exact ⟨fun _ file heq => absurd heq (hkind file), fun _ => ⟨hm, rfl⟩⟩
  -- the octets are read back exactly if they are the ones that were written
  | attachment file content hcontent =>
    rw [finish_attachment, restorable_attachment, ← Content.decode_of_encode hcontent]
    constructor
    · rintro ⟨bytes, hread, -, heq⟩
      cases file
      cases heq
      exact hread
    · intro hread
      exact ⟨file.content, hread, hm, rfl⟩

/-- No kind of message but an attachment holds octets. -/
private theorem ne_attachment_of_draft {ms : Members} {kind : MessageKind} {m : Message}
    (h : draft ms kind = .ok (.message m)) (file : Attachment) : m ≠ .entry (.attachment file) := by
  rintro rfl
  cases kind <;> simp [draft, bind_eq_ok, pure, Except.pure] at h

/-- A message has a record if its octets, if any, can be written. -/
private theorem exists_messageData {m : Message}
    (h : ∀ file, m = .entry (.attachment file) →
      ∃ text, Content.encode file.encoding file.content = .ok text) :
    ∃ data, messageData m = .ok data := by
  cases m with
  | entry e =>
    cases e with
    | attachment file =>
      obtain ⟨text, htext⟩ := h file rfl
      rw [messageData, entryData, htext]
      exact ⟨_, rfl⟩
    | _ => exact ⟨_, rfl⟩
  | _ => exact ⟨_, rfl⟩

/-- A message that was read is restorable and can be written. -/
private theorem restorable_of_finish {ms : Members} {kind : MessageKind} {d : Draft} {m : Message}
    (hdraft : draft ms kind = .ok d) (hfinish : d.finish = .ok m) :
    m.Sound ∧ Restorable m ∧ ∃ data, messageData m = .ok data := by
  cases d with
  | message n =>
    obtain ⟨hsound, rfl⟩ := finish_message.1 hfinish
    have hkind := ne_attachment_of_draft hdraft
    exact ⟨hsound, fun file heq => absurd heq (hkind file),
      exists_messageData fun file heq => absurd heq (hkind file)⟩
  | attachment name content contentType encoding =>
    obtain ⟨bytes, hread, hsound, rfl⟩ := finish_attachment.1 hfinish
    -- octets that were read from text can be written as text, and are read back from that
    refine ⟨hsound, restorable_attachment.2 (Content.restorable_of_decode hread),
      exists_messageData ?_⟩
    rintro file ⟨⟩
    exact Content.exists_encode_of_decode hread

/-! ### Events read back -/

/-- What reading the record of an event comes to: the same context, and the message as its draft is
finished. -/
private theorem exists_draft_of_toJson {e : Event} {v : Json} (h : toJson e = .ok v) :
    ∃ d, Draft.Writes e.message d ∧ (ofJson v = .ok e ↔ d.finish = .ok e.message) := by
  obtain ⟨data, hdata, rfl⟩ := toJson_eq_ok.1 h
  obtain ⟨d, hdraft, hwrites⟩ := draft_messageData hdata
  have hrecord := ofRecord_record e.contextId e.message.kind data
  refine ⟨d, hwrites, ?_⟩
  rw [ofJson_eq_ok]
  constructor
  -- the record and the draft are the ones just found, so only the completion is left
  · rintro ⟨kind, data', d', hrecord', hdraft', hfinish⟩
    rw [hrecord] at hrecord'
    cases hrecord'
    rw [hdraft] at hdraft'
    cases hdraft'
    exact hfinish
  · intro hfinish
    exact ⟨_, _, d, hrecord, hdraft, hfinish⟩

/-- The record of an event is read as that event if its octets are restorable, and else it is not.
-/
theorem ofJson_toJson {e : Event} {v : Json} (hsound : e.message.Sound) (h : toJson e = .ok v) :
    ofJson v = .ok e ↔ Restorable e.message := by
  obtain ⟨d, hwrites, hread⟩ := exists_draft_of_toJson h
  rw [hread, finish_of_writes hwrites hsound]

/-- Notes as text in UTF-8 with a byte order mark. -/
def notes (content : Bytes) : Event :=
  ⟨some "c1", .entry (.attachment ⟨"notes", content, "text/plain", "utf-8-sig"⟩)⟩

/-- Octets that begin with the mark are read back. -/
theorem ofJson_toJson_marked :
    (notes [0xEF, 0xBB, 0xBF, 0x61]).message.Sound
      ∧ ∃ v, toJson (notes [0xEF, 0xBB, 0xBF, 0x61]) = .ok v
        ∧ (ofJson v = .ok (notes [0xEF, 0xBB, 0xBF, 0x61])
          ↔ Restorable (notes [0xEF, 0xBB, 0xBF, 0x61]).message) :=
  ⟨by decide, _, rfl, ofJson_toJson (by decide) rfl⟩

/-- Octets without the mark are read back with it. -/
theorem ofJson_toJson_unmarked :
    (notes [0x61]).message.Sound ∧ ∃ v, toJson (notes [0x61]) = .ok v
      ∧ ofJson v = .ok (notes [0xEF, 0xBB, 0xBF, 0x61])
      ∧ notes [0xEF, 0xBB, 0xBF, 0x61] ≠ notes [0x61] :=
  ⟨by decide, _, rfl, rfl, by decide⟩

/-- The record that an event is written as after it has been read. -/
def normalForm? (v : Json) : Option Json :=
  match ofJson v with
  | .ok e => (toJson e).toOption
  | .error _ => none

/-- An event that was read is written as a record in normal form, and read back from it. -/
theorem ofJson_normalForm {v : Json} {e : Event} (h : ofJson v = .ok e) :
    ∃ w, toJson e = .ok w ∧ ofJson w = .ok e ∧ normalForm? v = some w ∧ normalForm? w = some w := by
  obtain ⟨kind, ms, d, -, hdraft, hfinish⟩ := ofJson_eq_ok.1 h
  obtain ⟨hsound, hrestorable, data, hdata⟩ := restorable_of_finish hdraft hfinish
  obtain ⟨w, hwrite⟩ : ∃ w, toJson e = .ok w := ⟨_, toJson_eq_ok.2 ⟨data, hdata, rfl⟩⟩
  -- what is written of the event is drafted again, and restorable
  obtain ⟨d', hwrites, hread⟩ := exists_draft_of_toJson hwrite
  have hback : ofJson w = .ok e := hread.2 ((finish_of_writes hwrites hsound).2 hrestorable)
  -- the normal form is what is written of the event that is read
  have hnormal : ∀ {u}, ofJson u = .ok e → normalForm? u = some w := by
    intro u hu
    rw [normalForm?, hu]
    simp only [hwrite, Except.toOption]
  exact ⟨w, hwrite, hback, hnormal h, hnormal hback⟩

/-- Other keys than the first ones, a time as a text, a key that nobody knows, and a text in UTF-16:
the normal forms of two records. -/
theorem ofJson_normalForm_of_other_spellings :
    (∃ w, toJson ⟨none, .hookStart "set up" .before 1000⟩ = .ok w
      ∧ ofJson w = .ok ⟨none, .hookStart "set up" .before 1000⟩
      ∧ normalForm? (.obj [("cid", .null), ("type", .str "hook_start"), ("data", .obj [
          ("kind", .str "before"), ("startTime", .str " +1_000.0"), ("name", .str "set up")])])
        = some w
      ∧ normalForm? w = some w)
    ∧ ∃ w, toJson ⟨some "c1", .entry (.attachment
          ⟨"notes", [0xFF, 0xFE, 0x61, 0], "text/plain", "UTF 16"⟩)⟩ = .ok w
      ∧ ofJson w = .ok ⟨some "c1", .entry (.attachment
          ⟨"notes", [0xFF, 0xFE, 0x61, 0], "text/plain", "UTF 16"⟩)⟩
      ∧ normalForm? (.obj [("data", .obj [("contentType", .str "text/plain"),
          ("name", .str "notes"), ("owner", .null), ("content", .str "a"),
          ("encoding", .str "UTF 16")]), ("type", .str "attachment"), ("cid", .str "c1")])
        = some w
      ∧ normalForm? w = some w :=
  ⟨ofJson_normalForm rfl, ofJson_normalForm rfl⟩

end Event

end Chronicle
