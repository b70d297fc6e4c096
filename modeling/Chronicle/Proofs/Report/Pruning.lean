import Chronicle.Report.Rendering
import Chronicle.Text.Split

/-!
# Records as trees of their fields

A record is a tree: every field of every record in it, known or not, under the name that it has in
the record. Two rules turn such a tree into the object in a file. `prune` leaves out the fields that
are unknown, at every depth, and writes members of a vocabulary as their words; `memberName` writes
`full_name` as `fullName` and the media type of an attachment as `type`. `prune_test`,
`prune_fixture` and `prune_scope` say that the texts of `Rendering` are what the two rules make of
a record.
-/
namespace Chronicle.Rendering

/-! ### The two rules -/

/-- What a field of a record holds. -/
inductive Raw where
  | unknown
  | word (w : String)
  | text (s : String)
  | number (n : Int)
  | list (items : List Raw)
  | record (fields : List (String × Raw))
  deriving Inhabited

/-- A word with its first letter in upper case and the others in lower case. The names of fields
are ASCII. -/
def capitalize : List Char → List Char
  | [] => []
  | c :: cs => c.toUpper :: cs.map Char.toLower

/-- The name of a field in a file: its words run together, all but the first with a capital
letter. -/
def memberName (field : String) : String :=
  if field = "content_type" then "type"
  else match Text.split '_' field.toList with
    | [] => ""
    | first :: rest => String.ofList (first ++ rest.flatMap capitalize)

mutual

/-- The value in a file for what a field holds. -/
def prune : Raw → Json
  | .unknown => .null
  | .word w => .str w
  | .text s => .str s
  | .number n => .int n
  | .list items => .arr (pruneItems items)
  | .record fields => .obj (pruneFields fields)

/-- The values of a list. Here nothing is left out. -/
def pruneItems : List Raw → List Json
  | [] => []
  | item :: rest => prune item :: pruneItems rest

/-- The members of an object: those of the known fields. -/
def pruneFields : List (String × Raw) → List (String × Json)
  | [] => []
  | (_, .unknown) :: rest => pruneFields rest
  | (name, value) :: rest => (memberName name, prune value) :: pruneFields rest

end

/-! ### Records as trees -/

namespace Raw

/-- What a field holds that may be unknown. -/
def ofOption {α : Type} (make : α → Raw) : Option α → Raw
  | none => .unknown
  | some a => make a

/-- A member of a vocabulary. -/
def ofWord {α : Type} [Vocabulary α] (a : α) : Raw :=
  .word (Vocabulary.word a)

/-- What went wrong. -/
def ofDetails (d : StatusDetails) : Raw :=
  .record [("message", ofOption .text d.message), ("trace", ofOption .text d.trace)]

/-- A label or a parameter. -/
def ofPair (name value : String) : Raw :=
  .record [("name", .text name), ("value", .text value)]

/-- An attachment. -/
def ofAttachment (a : AttachmentRef) : Raw :=
  .record [("name", .text a.name), ("source", .text a.source),
    ("content_type", .text a.contentType)]

/-- A handle. -/
def ofHandle (h : Handle) : Raw :=
  .text h.name

mutual

/-- A step. -/
def ofStep : StepResult → Raw
  | ⟨name, start, stop, status, details, stage, steps, attachments⟩ =>
    .record [("name", .text name), ("start", .number start), ("stop", ofOption .number stop),
      ("status", ofOption ofWord status), ("status_details", ofOption ofDetails details),
      ("stage", ofWord stage), ("steps", .list (ofSteps steps)),
      ("attachments", .list (attachments.map ofAttachment))]

/-- Steps in a row. -/
def ofSteps : List StepResult → List Raw
  | [] => []
  | s :: rest => ofStep s :: ofSteps rest

end

/-- A test. -/
def ofTest (r : TestResult) : Raw :=
  .record [("uuid", ofHandle r.handle), ("name", .text r.name), ("start", .number r.start),
    ("full_name", ofOption .text r.fullName), ("stop", ofOption .number r.stop),
    ("duration", ofOption .number r.duration), ("status", ofOption ofWord r.status),
    ("status_details", ofOption ofDetails r.details), ("stage", ofWord r.stage),
    ("labels", .list (r.labels.map fun l => ofPair l.name l.value)),
    ("parameters", .list (r.parameters.map fun p => ofPair p.name p.value)),
    ("steps", .list (ofSteps r.steps)), ("attachments", .list (r.attachments.map ofAttachment))]

/-- A fixture. -/
def ofFixture (r : FixtureResult) : Raw :=
  .record [("uuid", ofHandle r.handle), ("name", .text r.name), ("hook_kind", ofWord r.kind),
    ("start", .number r.start), ("stop", ofOption .number r.stop),
    ("duration", ofOption .number r.duration), ("status", ofOption ofWord r.status),
    ("status_details", ofOption ofDetails r.details), ("stage", ofWord r.stage)]

/-- A scope. -/
def ofScope (r : ScopeResult) : Raw :=
  .record [("uuid", ofHandle r.handle), ("children", .list (r.children.map ofHandle)),
    ("befores", .list (r.befores.map ofFixture)), ("afters", .list (r.afters.map ofFixture))]

end Raw

/-! ### Names -/

/-- A field of one word is named the same in a file. -/
private theorem memberName_of_mem {field : String}
    (h : field ∈ ["uuid", "name", "value", "source", "start", "stop", "duration", "status", "stage",
      "message", "trace", "labels", "parameters", "steps", "attachments", "children", "befores",
      "afters"]) : memberName field = field := by
  revert field
  decide

/-- A name of several words is joined by capitals. -/
@[simp] theorem memberName_fullName : memberName "full_name" = "fullName" := by decide

/-- So is this one. -/
@[simp] theorem memberName_statusDetails : memberName "status_details" = "statusDetails" := by
  decide

/-- And this one. -/
@[simp] theorem memberName_hookKind : memberName "hook_kind" = "hookKind" := by decide

/-- The one name that is not made from the words of its field. -/
@[simp] theorem memberName_contentType : memberName "content_type" = "type" := by decide

/-! ### Fields -/

/-- A member of a vocabulary is written as its word. -/
@[simp] theorem prune_ofWord {α : Type} [Vocabulary α] (a : α) :
    prune (Raw.ofWord a) = wordJson a := by
  rw [Raw.ofWord, prune, wordJson]

/-- A handle is written as its name. -/
@[simp] theorem prune_ofHandle (h : Handle) : prune (Raw.ofHandle h) = handleJson h := by
  rw [Raw.ofHandle, prune, handleJson]

/-- A list is pruned item by item. -/
private theorem pruneItems_map {α : Type} {make : α → Raw} {json : α → Json}
    (h : ∀ a, prune (make a) = json a) (items : List α) :
    pruneItems (items.map make) = items.map json := by
  induction items with
  | nil => rfl
  | cons a rest ih => rw [List.map_cons, pruneItems, h, ih, List.map_cons]

/-- A field that holds something is a member of the object. -/
private theorem pruneFields_cons {name : String} {value : Raw} {rest : List (String × Raw)}
    (h : value ≠ .unknown) :
    pruneFields ((name, value) :: rest) = (memberName name, prune value) :: pruneFields rest := by
  rw [pruneFields]
  exact h

/-- A field that may be unknown is a member of the object just if it is known. -/
private theorem pruneFields_ofOption {α : Type} {make : α → Raw} {json : α → Json} {name : String}
    {v : Option α} {rest : List (String × Raw)} (hmake : ∀ a, make a ≠ .unknown)
    (hjson : ∀ a, prune (make a) = json a) :
    pruneFields ((name, Raw.ofOption make v) :: rest)
      = known (memberName name) json v ++ pruneFields rest := by
  cases v with
  | none => rw [Raw.ofOption, pruneFields, known, Option.toList_none, List.map_nil, List.nil_append]
  | some a =>
    rw [Raw.ofOption, pruneFields_cons (hmake a), hjson, known, Option.toList_some,
      List.map_singleton, List.singleton_append]

/-- A field of text is left out if it is unknown. -/
@[simp] private theorem pruneFields_text (name : String) (v : Option String)
    (rest : List (String × Raw)) :
    pruneFields ((name, Raw.ofOption .text v) :: rest)
      = known (memberName name) .str v ++ pruneFields rest :=
  pruneFields_ofOption nofun fun _ => by rw [prune]

/-- So is a number. -/
@[simp] private theorem pruneFields_number (name : String) (v : Option Int)
    (rest : List (String × Raw)) :
    pruneFields ((name, Raw.ofOption .number v) :: rest)
      = known (memberName name) .int v ++ pruneFields rest :=
  pruneFields_ofOption nofun fun _ => by rw [prune]

/-- So is a word. -/
@[simp] private theorem pruneFields_word {α : Type} [Vocabulary α] (name : String) (v : Option α)
    (rest : List (String × Raw)) :
    pruneFields ((name, Raw.ofOption Raw.ofWord v) :: rest)
      = known (memberName name) wordJson v ++ pruneFields rest :=
  pruneFields_ofOption nofun prune_ofWord

/-! ### Records -/

/-- Details of which nothing is known are still an object. -/
@[simp] theorem prune_details (d : StatusDetails) : prune (Raw.ofDetails d) = detailsJson d := by
  rw [Raw.ofDetails, prune, pruneFields_text, pruneFields_text, pruneFields, List.append_nil,
    memberName_of_mem (by decide), memberName_of_mem (by decide), detailsJson]

/-- So are details, which are pruned themselves. -/
@[simp] private theorem pruneFields_details (name : String) (v : Option StatusDetails)
    (rest : List (String × Raw)) :
    pruneFields ((name, Raw.ofOption Raw.ofDetails v) :: rest)
      = known (memberName name) detailsJson v ++ pruneFields rest :=
  pruneFields_ofOption nofun prune_details

/-- A name and a value are always written. -/
@[simp] theorem prune_pair (name value : String) :
    prune (Raw.ofPair name value) = pairJson name value := by
  simp [Raw.ofPair, prune, pruneFields, pairJson, memberName_of_mem]

/-- The media type of an attachment is written as its type. -/
@[simp] theorem prune_attachment (a : AttachmentRef) :
    prune (Raw.ofAttachment a) = attachmentJson a := by
  simp [Raw.ofAttachment, prune, pruneFields, attachmentJson, memberName_of_mem]

mutual

/-- The object of a step, and of every step inside it. -/
private theorem prune_step : ∀ s : StepResult, prune (Raw.ofStep s) = stepJson s
  | ⟨name, start, stop, status, details, stage, steps, attachments⟩ => by
    have hsteps := pruneItems_steps steps
    simp [Raw.ofStep, stepJson, prune, pruneFields, Raw.ofWord, wordJson, hsteps,
      pruneItems_map prune_attachment, memberName_of_mem]

/-- Steps are pruned at every depth, by induction on them. -/
private theorem pruneItems_steps : ∀ steps : List StepResult,
    pruneItems (Raw.ofSteps steps) = stepsJson steps
  | [] => rfl
  | s :: rest => by
    rw [Raw.ofSteps, pruneItems, prune_step s, pruneItems_steps rest, stepsJson]

end

/-- **The file of a test** holds the known fields of its record and of the steps in it, under the
names that the rules give them and in the order of the record. -/
theorem prune_test (r : TestResult) : prune (Raw.ofTest r) = testJson r := by
  have hlabels := pruneItems_map (fun l : Label => prune_pair l.name l.value) r.labels
  have hparameters := pruneItems_map (fun p : Parameter => prune_pair p.name p.value) r.parameters
  simp [Raw.ofTest, testJson, prune, pruneFields, Raw.ofWord, wordJson, Raw.ofHandle, handleJson,
    hlabels, hparameters, pruneItems_steps, pruneItems_map prune_attachment, memberName_of_mem]

/-- A fixture has no file of its own: its object stands in the file of its scope. -/
theorem prune_fixture (r : FixtureResult) : prune (Raw.ofFixture r) = fixtureJson r := by
  simp [Raw.ofFixture, fixtureJson, prune, pruneFields, Raw.ofWord, wordJson, Raw.ofHandle,
    handleJson, memberName_of_mem]

/-- **The file of a scope** holds the known fields of its record and of the fixtures in it. -/
theorem prune_scope (r : ScopeResult) : prune (Raw.ofScope r) = scopeJson r := by
  have hchildren := pruneItems_map prune_ofHandle r.children
  have hfixtures := pruneItems_map prune_fixture
  simp [Raw.ofScope, scopeJson, prune, pruneFields, Raw.ofHandle, handleJson, hchildren, hfixtures,
    memberName_of_mem]

end Chronicle.Rendering
