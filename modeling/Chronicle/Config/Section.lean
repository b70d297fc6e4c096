import Chronicle.Schema
import Chronicle.Yaml.Value

/-!
# Sections of settings

A section is a map from names of settings to scalars. Everything that does not fit is found, not
only the first: the fields in their order, and then the entries that are no fields, in the order of
the section.
-/
namespace Chronicle

/-- A step of the way to a part of the settings. -/
inductive PlaceKey where
  | name (s : String)
  | number (i : Int)
  deriving DecidableEq, Repr, Inhabited

/-- A part of the settings that does not fit, and why. -/
structure SettingProblem where
  place : List PlaceKey
  fault : Schema.Fault
  deriving DecidableEq, Repr, Inhabited

/-- What is found where something does not fit, with the problems; else there are none. -/
structure Checked (α : Type) where
  value : α
  problems : List SettingProblem := []
  deriving Repr, Inhabited

namespace Yaml.Value

/-- A value as a field sees it. -/
def scalar : Value → Schema.Scalar
  | .null => .null
  | .bool b => .bool b
  | .int i => .int i
  | .float x => .float x
  | .text s => .text s
  | .octets content => .octets content
  | _ => .other

/-- A key as a step of the way to its value: a text or an integer of 64 bits as it is, and any other
key by its text. -/
def placeKey (key : Value) : PlaceKey :=
  match key with
  | .text s => .name s
  | .bool b => .number (if b then 1 else 0)
  | .int i => if fitsWord i then .number i else .name key.inner
  | _ => .name key.inner

end Yaml.Value

namespace Section

/-- The entries of a section. -/
abbrev Entries := List (Yaml.Value × Yaml.Value)

/-- The first of several names that occurs in a section, with its value. -/
def find? (es : Entries) (names : List String) : Option (String × Yaml.Value) :=
  names.findSome? fun name => (Yaml.Value.entry? es name).map (name, ·)

/-- A field that may have any of several names. -/
def field {α : Type} (heading : String) (es : Entries) (names : List String) (absent : α)
    (read : Schema.Scalar → Except Schema.Fault α) : Checked α :=
  match find? es names with
  | none => ⟨absent, []⟩
  | some (name, v) =>
    match read v.scalar with
    | .ok a => ⟨a, []⟩
    | .error f => ⟨absent, [⟨[.name heading, .name name], f⟩]⟩

/-- The entries that are no fields. Of several names of a field only the first that occurs belongs
to it. -/
def extras (heading : String) (es : Entries) (fields : List (List String)) : List SettingProblem :=
  let used := fields.filterMap fun names => (find? es names).map (·.1)
  es.filterMap fun e =>
    match e.1 with
    | .text s => if used.contains s then none else some ⟨[.name heading, .name s], .extra⟩
    | key => some ⟨[.name heading, key.placeKey], .keyNotText⟩

end Section

end Chronicle
