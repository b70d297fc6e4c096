import Chronicle.Proofs.Json.Reading
import Chronicle.Proofs.Octets.Utf8
import Chronicle.Report.Rendering

/-!
# Records read back from their files

The file of a test or of a scope says everything that the record says: `Rendering.read_written`
gives the reader that finds the record in the file again, so no two records have one file. What a
record does not know is left out of the file, and what is left out is not known; details without
parts are in the file and are read as details without parts.

Integers of more digits than are allowed where a text is read are the one exception.
-/
namespace Chronicle.Rendering

open Json

variable {α : Type}

/-! ### Readers -/

/-- The text that a value is. -/
def textOf? : Json → Option String
  | .str s => some s
  | _ => none

/-- The integer that a value is. -/
def intOf? : Json → Option Int
  | .int i => some i
  | _ => none

/-- The member of a vocabulary that a value stands for. -/
def wordOf? [Vocabulary α] (v : Json) : Option α :=
  (textOf? v).bind Vocabulary.ofWord?

/-- The handle that a value names. -/
def handleOf? (v : Json) : Option Handle :=
  (textOf? v).map Handle.mk

/-- The items that a value lists. -/
def listOf? (read : Json → Option α) : Json → Option (List α)
  | .arr items => items.mapM read
  | _ => none

/-- What a member says that has to be there. -/
def required? (read : Json → Option α) (members : List (String × Json)) (key : String) :
    Option α :=
  (member? members key).bind read

/-- What is known if a value is there, and that it is not known if there is none. -/
def knownOf? (read : Json → Option α) : Option Json → Option (Option α)
  | none => some none
  | some v => (read v).map some

/-- What a member says that may be left out. -/
def optional? (read : Json → Option α) (members : List (String × Json)) (key : String) :
    Option (Option α) :=
  knownOf? read (member? members key)

/-- What the members of an object say. -/
def objectOf? (read : List (String × Json) → Option α) : Json → Option α
  | .obj members => read members
  | _ => none

/-- The details that a value gives. -/
def detailsOf? : Json → Option StatusDetails :=
  objectOf? fun members => do
    return ⟨← optional? textOf? members "message", ← optional? textOf? members "trace"⟩

/-- The label that a value gives. -/
def labelOf? : Json → Option Label :=
  objectOf? fun members => do
    return ⟨← required? textOf? members "name", ← required? textOf? members "value"⟩

/-- The parameter that a value gives. -/
def parameterOf? : Json → Option Parameter :=
  objectOf? fun members => do
    return ⟨← required? textOf? members "name", ← required? textOf? members "value"⟩

/-- The attachment that a value refers to. -/
def attachmentOf? : Json → Option AttachmentRef :=
  objectOf? fun members => do
    return ⟨← required? textOf? members "name", ← required? textOf? members "source",
      ← required? textOf? members "type"⟩

mutual

/-- The step that a value gives. -/
def stepOf? : Json → Option StepResult
  | .obj members => do
    return ⟨← required? textOf? members "name", ← required? intOf? members "start",
      ← optional? intOf? members "stop", ← optional? wordOf? members "status",
      ← optional? detailsOf? members "statusDetails", ← required? wordOf? members "stage",
      ← stepsUnder? members, ← required? (listOf? attachmentOf?) members "attachments"⟩
  | _ => none

/-- The steps that the member for steps gives. -/
def stepsUnder? : List (String × Json) → Option (List StepResult)
  | [] => none
  | (key, v) :: rest => if key = "steps" then stepsOf? v else stepsUnder? rest

/-- The steps that a value lists. -/
def stepsOf? : Json → Option (List StepResult)
  | .arr items => stepsIn? items
  | _ => none

/-- The steps that values give. -/
def stepsIn? : List Json → Option (List StepResult)
  | [] => some []
  | v :: rest => do return (← stepOf? v) :: (← stepsIn? rest)

end

/-- The test that a value gives. -/
def testOf? : Json → Option TestResult :=
  objectOf? fun members => do
    return {
      handle := ← required? handleOf? members "uuid"
      name := ← required? textOf? members "name"
      start := ← required? intOf? members "start"
      fullName := ← optional? textOf? members "fullName"
      stop := ← optional? intOf? members "stop"
      duration := ← optional? intOf? members "duration"
      status := ← optional? wordOf? members "status"
      details := ← optional? detailsOf? members "statusDetails"
      stage := ← required? wordOf? members "stage"
      labels := ← required? (listOf? labelOf?) members "labels"
      parameters := ← required? (listOf? parameterOf?) members "parameters"
      steps := ← stepsUnder? members
      attachments := ← required? (listOf? attachmentOf?) members "attachments" }

/-- The fixture that a value gives. -/
def fixtureOf? : Json → Option FixtureResult :=
  objectOf? fun members => do
    return {
      handle := ← required? handleOf? members "uuid"
      name := ← required? textOf? members "name"
      kind := ← required? wordOf? members "hookKind"
      start := ← required? intOf? members "start"
      stop := ← optional? intOf? members "stop"
      duration := ← optional? intOf? members "duration"
      status := ← optional? wordOf? members "status"
      details := ← optional? detailsOf? members "statusDetails"
      stage := ← required? wordOf? members "stage" }

/-- The scope that a value gives. -/
def scopeOf? : Json → Option ScopeResult :=
  objectOf? fun members => do
    return {
      handle := ← required? handleOf? members "uuid"
      children := ← required? (listOf? handleOf?) members "children"
      befores := ← required? (listOf? fixtureOf?) members "befores"
      afters := ← required? (listOf? fixtureOf?) members "afters" }

/-- What a reader of values finds in the octets of a file. -/
def readFile (read : Json → Option α) (octets : Bytes) : Option α :=
  match Utf8.decode octets with
  | .error _ => none
  | .ok text =>
    match Json.parse text with
    | .error _ => none
    | .ok v => read v

/-! ### Members -/

@[simp] theorem member?_nil (key : String) : member? [] key = none := rfl

/-- A member is looked for in the first members, and then in the others. -/
@[simp] theorem member?_append (members more : List (String × Json)) (key : String) :
    member? (members ++ more) key = (member? members key).or (member? more key) :=
  List.lookup_append

/-- A member is the first one with its key. -/
@[simp] theorem member?_cons (k : String) (v : Json) (rest : List (String × Json)) (key : String) :
    member? ((k, v) :: rest) key = if key = k then some v else member? rest key := by
  by_cases heq : key = k
  · subst heq
    rw [if_pos rfl]
    exact List.lookup_cons_self
  · have hne : (key == k) = false := by simpa using heq
    rw [if_neg heq, member?, List.lookup_cons, hne]
    rfl

/-- What is not known leaves no member behind, and what is known leaves one. -/
@[simp] theorem member?_known (k : String) (make : α → Json) (v : Option α) (key : String) :
    member? (known k make v) key = if key = k then v.map make else none := by
  cases v with
  | none => by_cases heq : key = k <;> simp [known]
  | some a =>
    rw [known, Option.toList_some, List.map_singleton, member?_cons]
    rfl

/-! ### What is written is read back -/

variable {read : Json → Option α} {make : α → Json}

/-- Whatever is written in one way is read back in the other. -/
def Inverts (read : Json → Option α) (make : α → Json) : Prop :=
  ∀ a, read (make a) = some a

/-- What may be unknown is read back if what it holds is read back. -/
theorem Inverts.known (h : Inverts read make) (v : Option α) :
    knownOf? read (v.map make) = some v := by
  cases v with
  | none => rfl
  | some a => rw [Option.map_some, knownOf?, h a, Option.map_some]

/-- A list is read back item by item. -/
theorem Inverts.list (h : Inverts read make) :
    Inverts (listOf? read) fun l => .arr (l.map make) := by
  intro l
  show (l.map make).mapM read = some l
  induction l with
  | nil => rfl
  | cons a l ih =>
    rw [List.map_cons, List.mapM_cons, h a, ih]
    rfl

private theorem inverts_text : Inverts textOf? .str := fun _ => rfl

private theorem inverts_int : Inverts intOf? .int := fun _ => rfl

/-- A word of a vocabulary stands for one member only. -/
private theorem inverts_word [Vocabulary α] : Inverts (wordOf? (α := α)) wordJson :=
  Vocabulary.ofWord?_word

private theorem inverts_handle : Inverts handleOf? handleJson := fun _ => rfl

private theorem inverts_label : Inverts labelOf? fun l => pairJson l.name l.value := fun _ => rfl

private theorem inverts_parameter :
    Inverts parameterOf? fun p => pairJson p.name p.value := fun _ => rfl

private theorem inverts_attachment : Inverts attachmentOf? attachmentJson := fun _ => rfl

/-- A member is read back that has to be there. -/
private theorem required?_of {members : List (String × Json)} (key : String) (h : Inverts read make)
    (a : α) (hmember : member? members key = some (make a)) :
    required? read members key = some a := by
  rw [required?, hmember, Option.bind_some, h a]

/-- A member is read back that may be left out. -/
private theorem optional?_of {members : List (String × Json)} (key : String) (h : Inverts read make)
    (v : Option α) (hmember : member? members key = v.map make) :
    optional? read members key = some v := by
  rw [optional?, hmember, h.known]

/-- Details are read back with both of their parts, known or not. -/
private theorem inverts_details : Inverts detailsOf? detailsJson := by
  intro d
  rw [detailsJson, detailsOf?, objectOf?, optional?_of "message" inverts_text d.message,
    optional?_of "trace" inverts_text d.trace]
  · rfl
  all_goals simp

/-- The steps are read from the member with their name. -/
private theorem stepsUnder?_eq (members : List (String × Json)) :
    stepsUnder? members = (member? members "steps").bind stepsOf? := by
  induction members with
  | nil => rfl
  | cons m rest ih =>
    obtain ⟨k, v⟩ := m
    rw [stepsUnder?, member?_cons, ih]
    by_cases heq : k = "steps"
    · rw [if_pos heq, if_pos heq.symm]
      rfl
    · rw [if_neg heq, if_neg (Ne.symm heq)]

mutual

/-- A step is read back with all that is inside it. -/
private theorem stepOf?_stepJson (s : StepResult) : stepOf? (stepJson s) = some s := by
  match s with
  | ⟨name, start, stop, status, details, stage, steps, attachments⟩ =>
    rw [stepJson, stepOf?, required?_of "name" inverts_text name,
      required?_of "start" inverts_int start, optional?_of "stop" inverts_int stop,
      optional?_of "status" inverts_word status,
      optional?_of "statusDetails" inverts_details details, required?_of "stage" inverts_word stage,
      stepsUnder?_of steps, required?_of "attachments" inverts_attachment.list attachments]
    · rfl
    all_goals simp

/-- Steps are read back one after another. -/
private theorem stepsIn?_stepsJson (steps : List StepResult) :
    stepsIn? (stepsJson steps) = some steps := by
  match steps with
  | [] => rfl
  | s :: rest =>
    rw [stepsJson, stepsIn?, stepOf?_stepJson s, stepsIn?_stepsJson rest]
    rfl

/-- The steps of a record are read back. -/
private theorem stepsUnder?_of {members : List (String × Json)} (steps : List StepResult)
    (hmember : member? members "steps" = some (.arr (stepsJson steps))) :
    stepsUnder? members = some steps := by
  rw [stepsUnder?_eq, hmember, Option.bind_some]
  exact stepsIn?_stepsJson steps

end

/-- A fixture is read back from its object. -/
private theorem inverts_fixture : Inverts fixtureOf? fixtureJson := by
  intro r
  rw [fixtureJson, fixtureOf?, objectOf?, required?_of "uuid" inverts_handle r.handle,
    required?_of "name" inverts_text r.name, required?_of "hookKind" inverts_word r.kind,
    required?_of "start" inverts_int r.start, optional?_of "stop" inverts_int r.stop,
    optional?_of "duration" inverts_int r.duration, optional?_of "status" inverts_word r.status,
    optional?_of "statusDetails" inverts_details r.details,
    required?_of "stage" inverts_word r.stage]
  · rfl
  all_goals simp

/-- A test is read back from its object, members of which may be missing. -/
private theorem inverts_test : Inverts testOf? testJson := by
  intro r
  -- each member is read back on its own
  rw [testJson, testOf?, objectOf?, required?_of "uuid" inverts_handle r.handle,
    required?_of "name" inverts_text r.name, required?_of "start" inverts_int r.start,
    optional?_of "fullName" inverts_text r.fullName, optional?_of "stop" inverts_int r.stop,
    optional?_of "duration" inverts_int r.duration, optional?_of "status" inverts_word r.status,
    optional?_of "statusDetails" inverts_details r.details,
    required?_of "stage" inverts_word r.stage, required?_of "labels" inverts_label.list r.labels,
    required?_of "parameters" inverts_parameter.list r.parameters, stepsUnder?_of r.steps,
    required?_of "attachments" inverts_attachment.list r.attachments]
  · rfl
  all_goals simp

/-- A scope is read back from its object, with its fixtures. -/
private theorem inverts_scope : Inverts scopeOf? scopeJson := by
  intro r
  rw [scopeJson, scopeOf?, objectOf?, required?_of "uuid" inverts_handle r.handle,
    required?_of "children" inverts_handle.list r.children,
    required?_of "befores" inverts_fixture.list r.befores,
    required?_of "afters" inverts_fixture.list r.afters]
  · rfl
  all_goals simp

/-! ### Records that can be read -/

mutual

/-- The times in a step have no more digits than are allowed, at any depth. -/
def ShortStep : StepResult → Prop
  | ⟨_, start, stop, _, _, _, steps, _⟩ =>
    IsShort start ∧ (∀ t ∈ stop, IsShort t) ∧ ShortSteps steps

/-- So it is in every one of the steps. -/
def ShortSteps : List StepResult → Prop
  | [] => True
  | s :: rest => ShortStep s ∧ ShortSteps rest

end

/-- The integers in a test have no more digits than are allowed. -/
structure ShortTest (r : TestResult) : Prop where
  start : IsShort r.start
  stop : ∀ t ∈ r.stop, IsShort t
  duration : ∀ t ∈ r.duration, IsShort t
  steps : ShortSteps r.steps

/-- The integers in a fixture have no more digits than are allowed. -/
structure ShortFixture (r : FixtureResult) : Prop where
  start : IsShort r.start
  stop : ∀ t ∈ r.stop, IsShort t
  duration : ∀ t ∈ r.duration, IsShort t

/-- The integers in a scope are those in its fixtures. -/
structure ShortScope (r : ScopeResult) : Prop where
  befores : ∀ f ∈ r.befores, ShortFixture f
  afters : ∀ f ∈ r.afters, ShortFixture f

/-- Members that can be read, under keys that are among those in a list and in the same order. -/
structure Fits (members : List (String × Json)) (keys : List String) : Prop where
  keys : (members.map (·.1)).Sublist keys
  values : MembersReadable members

theorem Fits.nil : Fits [] [] :=
  ⟨.slnil, trivial⟩

variable {key : String} {keys more : List String} {v : Json} {members rest : List (String × Json)}

/-- A member that can be read is put before others with other keys. -/
theorem Fits.cons (hv : Readable v) (h : Fits members keys) :
    Fits ((key, v) :: members) (key :: keys) :=
  ⟨h.keys.cons_cons key, hv, h.values⟩

/-- The members of two parts fit the keys of both. -/
theorem Fits.append (h : Fits members keys) (hrest : Fits rest more) :
    Fits (members ++ rest) (keys ++ more) := by
  refine ⟨?_, ?_⟩
  · rw [List.map_append]
    exact h.keys.append hrest.keys
  · have hvalues := h.values
    clear h
    induction members with
    | nil => exact hrest.values
    | cons m members ih => exact ⟨hvalues.1, ih hvalues.2⟩

/-- What is not known takes no key. -/
theorem Fits.known {v : Option α} (hv : ∀ a ∈ v, Readable (make a)) :
    Fits (known key make v) [key] := by
  cases v with
  | none => exact ⟨List.nil_sublist [key], trivial⟩
  | some a => exact .cons (hv a rfl) .nil

/-- An object can be read if its keys differ. -/
theorem Fits.readable (h : Fits members keys) (hkeys : keys.Nodup) : Readable (.obj members) :=
  ⟨h.keys.nodup hkeys, h.values⟩

/-- A list can be read if its items can. -/
private theorem readable_list {l : List α} (h : ∀ a ∈ l, Readable (make a)) :
    Readable (.arr (l.map make)) := by
  show ItemsReadable (l.map make)
  induction l with
  | nil => trivial
  | cons a l ih =>
    obtain ⟨ha, hl⟩ := List.forall_mem_cons.1 h
    exact ⟨ha, ih hl⟩

private theorem fits_text (key : String) (v : Option String) : Fits (known key .str v) [key] :=
  .known fun _ _ => trivial

private theorem fits_word [Vocabulary α] (key : String) (v : Option α) :
    Fits (known key wordJson v) [key] :=
  .known fun _ _ => trivial

/-- A number that may be unknown fits if it is short. -/
private theorem fits_int (key : String) {v : Option Int} (hv : ∀ i ∈ v, IsShort i) :
    Fits (known key .int v) [key] :=
  .known hv

/-- Details can be read: they are two texts at most. -/
private theorem readable_details (d : StatusDetails) : Readable (detailsJson d) :=
  ((fits_text "message" d.message).append (fits_text "trace" d.trace)).readable (by decide)

private theorem fits_details (key : String) (v : Option StatusDetails) :
    Fits (known key detailsJson v) [key] :=
  .known fun d _ => readable_details d

private theorem readable_pair (name value : String) : Readable (pairJson name value) :=
  Fits.readable (.cons trivial (.cons trivial .nil)) (by decide)

private theorem readable_attachment (a : AttachmentRef) : Readable (attachmentJson a) :=
  Fits.readable (.cons trivial (.cons trivial (.cons trivial .nil))) (by decide)

mutual

/-- A step can be read if the numbers in it and inside it are short. -/
private theorem readable_step (s : StepResult) (hs : ShortStep s) : Readable (stepJson s) := by
  match s with
  | ⟨name, start, stop, status, details, stage, steps, attachments⟩ =>
    obtain ⟨hstart, hstop, hsteps⟩ := hs
    -- the members come in three parts: those that are always there stand around those that may be
    -- missing
    have hfirst : Fits [("name", .str name), ("start", .int start)] ["name", "start"] :=
      .cons trivial (.cons hstart .nil)
    have hlast : Fits [("stage", wordJson stage), ("steps", .arr (stepsJson steps)),
        ("attachments", .arr (attachments.map attachmentJson))] ["stage", "steps", "attachments"] :=
      .cons trivial (.cons (itemsReadable_steps steps hsteps)
        (.cons (readable_list fun a _ => readable_attachment a) .nil))
    have hfits := (((hfirst.append (fits_int "stop" hstop)).append
      (fits_word "status" status)).append (fits_details "statusDetails" details)).append hlast
    -- no key comes twice
    exact hfits.readable (by decide)

/-- Steps can be read if each of them can. -/
private theorem itemsReadable_steps (steps : List StepResult) (hs : ShortSteps steps) :
    ItemsReadable (stepsJson steps) := by
  match steps with
  | [] => trivial
  | s :: rest => exact ⟨readable_step s hs.1, itemsReadable_steps rest hs.2⟩

end

/-- A fixture can be read if the numbers in it are short. -/
private theorem readable_fixture {r : FixtureResult} (hr : ShortFixture r) :
    Readable (fixtureJson r) := by
  have hfirst : Fits [("uuid", handleJson r.handle), ("name", .str r.name),
      ("hookKind", wordJson r.kind), ("start", .int r.start)]
      ["uuid", "name", "hookKind", "start"] :=
    .cons trivial (.cons trivial (.cons trivial (.cons hr.start .nil)))
  have hlast : Fits [("stage", wordJson r.stage)] ["stage"] := .cons trivial .nil
  have hfits := ((((hfirst.append (fits_int "stop" hr.stop)).append
    (fits_int "duration" hr.duration)).append (fits_word "status" r.status)).append
    (fits_details "statusDetails" r.details)).append hlast
  exact hfits.readable (by decide)

/-- A test can be read if the numbers in it and in its steps are short. -/
private theorem readable_test {r : TestResult} (hr : ShortTest r) : Readable (testJson r) := by
  -- the members come in three parts here as well
  have hfirst : Fits [("uuid", handleJson r.handle), ("name", .str r.name), ("start", .int r.start)]
      ["uuid", "name", "start"] :=
    .cons trivial (.cons trivial (.cons hr.start .nil))
  have hlast : Fits [("stage", wordJson r.stage),
      ("labels", .arr (r.labels.map fun l => pairJson l.name l.value)),
      ("parameters", .arr (r.parameters.map fun p => pairJson p.name p.value)),
      ("steps", .arr (stepsJson r.steps)), ("attachments", .arr (r.attachments.map attachmentJson))]
      ["stage", "labels", "parameters", "steps", "attachments"] :=
    .cons trivial (.cons (readable_list fun l _ => readable_pair l.name l.value)
      (.cons (readable_list fun p _ => readable_pair p.name p.value)
        (.cons (itemsReadable_steps r.steps hr.steps)
          (.cons (readable_list fun a _ => readable_attachment a) .nil))))
  -- the members that may be absent stand between the first and the last
  have hfits := (((((hfirst.append (fits_text "fullName" r.fullName)).append
    (fits_int "stop" hr.stop)).append (fits_int "duration" hr.duration)).append
    (fits_word "status" r.status)).append (fits_details "statusDetails" r.details)).append hlast
  exact hfits.readable (by decide)

/-- A scope can be read if the numbers in its fixtures are short. -/
private theorem readable_scope {r : ScopeResult} (hr : ShortScope r) : Readable (scopeJson r) :=
  Fits.readable
    (.cons trivial (.cons (readable_list fun _ _ => trivial)
      (.cons (readable_list fun f hf => readable_fixture (hr.befores f hf))
        (.cons (readable_list fun f hf => readable_fixture (hr.afters f hf)) .nil))))
    (by decide)

/-! ### Files -/

/-- Whatever can be read is found in its file. -/
private theorem readFile_octets {v : Json} (hv : Readable v) : readFile read v.octets = read v := by
  simp only [readFile, Json.octets, Utf8.decode_encode, parse_print hv]

/-- A test or a scope is found again in its file by a reader that is told nothing else, so two tests
with one file are one test, and two scopes with one file are one scope. -/
theorem read_written :
    (∀ r, ShortTest r → readFile testOf? (testJson r).octets = some r)
      ∧ (∀ r, ShortScope r → readFile scopeOf? (scopeJson r).octets = some r)
      ∧ (∀ r r', ShortTest r → ShortTest r' →
        (testJson r).octets = (testJson r').octets → r = r')
      ∧ ∀ r r', ShortScope r → ShortScope r' →
        (scopeJson r).octets = (scopeJson r').octets → r = r' := by
  have htest : ∀ r, ShortTest r → readFile testOf? (testJson r).octets = some r := fun r hr =>
    (readFile_octets (readable_test hr)).trans (inverts_test r)
  have hscope : ∀ r, ShortScope r → readFile scopeOf? (scopeJson r).octets = some r := fun r hr =>
    (readFile_octets (readable_scope hr)).trans (inverts_scope r)
  refine ⟨htest, hscope, fun r r' hr hr' heq => ?_, fun r r' hr hr' heq => ?_⟩
  · exact Option.some.inj ((htest r hr).symm.trans ((congrArg _ heq).trans (htest r' hr')))
  · exact Option.some.inj ((hscope r hr).symm.trans ((congrArg _ heq).trans (hscope r' hr')))

/-- A test with a step inside a step, characters that are escaped and details without parts, which
is not the test without details, and a scope with a fixture that has not stopped. -/
theorem read_written_of_bare_details :
    let inner : StepResult := ⟨"inner", 2, some (-3), none, none, .running, [], []⟩
    let outer : StepResult := ⟨"outer", 1, none, some .passed, none, .finished, [inner], []⟩
    let test : TestResult :=
      { handle := ⟨"test-1"⟩, name := "\"\\\n\x01é", start := 0, details := some ⟨none, none⟩,
        steps := [outer] }
    let scope : ScopeResult :=
      { handle := ⟨"scope-1"⟩, children := [⟨"test-1"⟩],
        befores := [{ handle := ⟨"fixture-1"⟩, name := "", kind := .before, start := 5 }] }
    readFile testOf? (testJson test).octets = some test
      ∧ (testJson { test with details := none }).octets ≠ (testJson test).octets
      ∧ readFile scopeOf? (scopeJson scope).octets = some scope
      ∧ (scopeJson { scope with children := [] }).octets ≠ (scopeJson scope).octets := by
  intro inner outer test scope
  -- numbers of one digit are short
  have hshort : ∀ i : Int, i.natAbs < 10 → IsShort i := by
    intro i hi
    simp [IsShort, Decimal.digits, hi, Decimal.maxDigits]
  have hnone : ∀ t ∈ (none : Option Int), IsShort t := fun _ h => absurd h (Option.not_mem_none _)
  -- every number in the two records is short
  have hinner : ShortStep inner := ⟨hshort 2 (by decide), by simp [hshort (-3)], trivial⟩
  have houter : ShortStep outer := ⟨hshort 1 (by decide), hnone, hinner, trivial⟩
  have htest : ∀ details, ShortTest { test with details := details } := fun _ =>
    ⟨hshort 0 (by decide), hnone, hnone, houter, trivial⟩
  have hscope : ∀ children, ShortScope { scope with children := children } := by
    refine fun _ => ⟨fun f hf => ?_, fun f hf => absurd hf List.not_mem_nil⟩
    cases List.mem_singleton.1 hf
    exact ⟨hshort 5 (by decide), hnone, hnone⟩
  -- two records with the same file would be the same
  refine ⟨read_written.1 test (htest _), fun heq => ?_, read_written.2.1 scope (hscope _),
    fun heq => ?_⟩
  · have hdetails := congrArg TestResult.details (read_written.2.2.1 _ _ (htest none) (htest _) heq)
    cases hdetails
  · have hchildren :=
      congrArg ScopeResult.children (read_written.2.2.2 _ _ (hscope []) (hscope _) heq)
    cases hchildren

end Chronicle.Rendering
