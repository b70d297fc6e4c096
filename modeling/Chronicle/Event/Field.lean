import Chronicle.Json.Value
import Chronicle.Message
import Chronicle.Schema

/-!
# Fields of event records

The members of an event record by name. Some fields are known under several names: the first of
them that is there counts, and the field is written under its first name.
-/
namespace Chronicle

/-- A value as a field sees it. -/
def Json.scalar : Json → Schema.Scalar
  | .null => .null
  | .bool b => .bool b
  | .int i => .int i
  | .float x => .float x
  | .str s => .text s
  | .arr _ => .other
  | .obj _ => .other

/-- The members of an object. -/
abbrev Members := List (String × Json)

/-- A field of a record: the key it is written under, and the other keys it is read from. -/
structure Field where
  key : String
  aliases : List String := []
  deriving DecidableEq, Repr, Inhabited

namespace Field

/-- The keys that a field is read from, most preferred first. -/
def keys (f : Field) : List String :=
  f.key :: f.aliases

/-- The value of a field. -/
def find? (f : Field) (members : Members) : Option Json :=
  f.keys.findSome? (Json.member? members)

/-- The value of a field that must be there. -/
def required {α : Type} (f : Field) (read : Json → Except Schema.Fault α) (members : Members) :
    Except Schema.Fault α :=
  match f.find? members with
  | some v => read v
  | none => .error .missing

/-- The value of a field that may be absent. -/
def withDefault {α : Type} (f : Field) (absent : α) (read : Json → Except Schema.Fault α)
    (members : Members) : Except Schema.Fault α :=
  match f.find? members with
  | some v => read v
  | none => .ok absent

/-! ### The record -/

def contextId : Field := ⟨"cid", []⟩
def kind : Field := ⟨"type", []⟩
def data : Field := ⟨"data", []⟩

/-! ### The data of messages -/

def name : Field := ⟨"name", []⟩
def isFeature : Field := ⟨"is_feature", ["isFeature", "feature"]⟩
def start : Field := ⟨"start", ["startTime"]⟩
def fullName : Field := ⟨"full_name", ["fullName"]⟩
def status : Field := ⟨"status", []⟩
def stop : Field := ⟨"stop", ["stopTime"]⟩
def stage : Field := ⟨"stage", []⟩
def duration : Field := ⟨"duration", []⟩
def details : Field := ⟨"status_details", ["statusDetails"]⟩
def hookKind : Field := ⟨"hook_kind", ["kind", "type"]⟩
def labels : Field := ⟨"labels", []⟩
def parameters : Field := ⟨"parameters", []⟩
def content : Field := ⟨"content", []⟩
def contentType : Field := ⟨"content_type", ["contentType"]⟩
def encoding : Field := ⟨"encoding", []⟩

/-! ### Their own parts -/

def value : Field := ⟨"value", []⟩
def message : Field := ⟨"message", []⟩
def trace : Field := ⟨"trace", []⟩

end Field

end Chronicle
