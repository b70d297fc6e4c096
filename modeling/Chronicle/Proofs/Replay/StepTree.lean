import Chronicle.Proofs.Replay.Move

/-!
# Steps as brackets

The steps of a test are read off a list of marks as off a text with brackets: what stands between
the start of a step and the stop that matches it is inside the step. `contentsOf` does this from
right to left, without a stack. An open test reads the same marks from left to right, and keeps the
steps that are open in a chain; `OpenTest.outlook` is what it will have become after some more
marks, and no mark changes that when it is read.
-/
namespace Chronicle

/-! ### Brackets -/

/-- How a step is closed. -/
structure StepClosing where
  status : Status
  stop : Int
  details : Option StatusDetails
  deriving DecidableEq, Repr, Inhabited

/-- What is said about steps and attachments. -/
inductive StepMark where
  | opened (name : String) (start : Int)
  | closed (closing : StepClosing)
  | attached (ref : AttachmentRef)
  deriving DecidableEq, Repr, Inhabited

/-- What stands inside a step or a test. -/
structure Contents where
  steps : List StepResult := []
  attachments : List AttachmentRef := []
  deriving BEq, Repr, Inhabited

instance : Append Contents where
  append c c' := ⟨c.steps ++ c'.steps, c.attachments ++ c'.attachments⟩

/-- Contents are put together part by part. -/
theorem Contents.append_def (c c' : Contents) :
    c ++ c' = ⟨c.steps ++ c'.steps, c.attachments ++ c'.attachments⟩ := rfl

/-- A step with its contents. One that is not closed goes on running. -/
def stepOf (name : String) (start : Int) (closing : Option StepClosing) (inside : Contents) :
    StepResult where
  name := name
  start := start
  stop := closing.map (·.stop)
  status := closing.map (·.status)
  details := closing.bind (·.details)
  stage := if closing.isSome then .finished else .running
  steps := inside.steps
  attachments := inside.attachments

/-- What marks say: what stands before the first closing that has no opening among them, and each
closing of that kind with what stands after it. -/
structure Reading where
  inside : Contents := {}
  later : List (StepClosing × Contents) := []
  deriving Repr, Inhabited

namespace Reading

/-- What is read after the opening of a step: the step is closed by the first closing without an
opening, or else at the end. -/
def enclose (atEnd : Option StepClosing) (step : Option StepClosing → Contents → StepResult)
    (r : Reading) : Reading :=
  match r.later with
  | [] => { inside := { steps := [step atEnd r.inside] } }
  | (closing, after) :: later =>
    { inside := { after with steps := step (some closing) r.inside :: after.steps }
      later := later }

/-- What is read where no step is open: a closing without an opening closes nothing. -/
def root (r : Reading) : Contents :=
  r.inside ++ ⟨r.later.flatMap (·.2.steps), r.later.flatMap (·.2.attachments)⟩

end Reading

/-- What marks say when a step without a closing is closed in a given way, or not at all. -/
def readMarks (atEnd : Option StepClosing) : List StepMark → Reading
  | [] => {}
  | .opened name start :: rest => (readMarks atEnd rest).enclose atEnd (stepOf name start)
  | .closed closing :: rest =>
    let r := readMarks atEnd rest
    { later := (closing, r.inside) :: r.later }
  | .attached ref :: rest =>
    let r := readMarks atEnd rest
    { r with inside := { r.inside with attachments := ref :: r.inside.attachments } }

/-- The steps and attachments of a test with these marks. -/
def contentsOf (atEnd : Option StepClosing) (marks : List StepMark) : Contents :=
  (readMarks atEnd marks).root

/-- How many steps are open after one more mark. -/
def StepMark.depth (n : Nat) : StepMark → Nat
  | .opened .. => n + 1
  | .closed _ => n - 1
  | .attached _ => n

/-- How many steps are open after some marks. -/
def openAfter (marks : List StepMark) : Nat :=
  marks.foldl StepMark.depth 0

mutual

/-- A step and all steps inside it, in the order in which they start. -/
def everyStep : StepResult → List StepResult
  | ⟨name, start, stop, status, details, stage, steps, attachments⟩ =>
    ⟨name, start, stop, status, details, stage, steps, attachments⟩ :: everyStepIn steps

/-- The steps of a list and all steps inside them, in the order in which they start. -/
def everyStepIn : List StepResult → List StepResult
  | [] => []
  | s :: rest => everyStep s ++ everyStepIn rest

end

/-- A step comes before the steps inside it. -/
theorem everyStep_eq (s : StepResult) : everyStep s = s :: everyStepIn s.steps := by
  cases s
  rw [everyStep]

/-- The steps of two lists are those of one and of the other. -/
theorem everyStepIn_append (steps steps' : List StepResult) :
    everyStepIn (steps ++ steps') = everyStepIn steps ++ everyStepIn steps' := by
  induction steps with
  | nil => rfl
  | cons s rest ih => rw [List.cons_append, everyStepIn, everyStepIn, ih, List.append_assoc]

/-! ### What brackets contain -/

/-- The start that a mark tells. -/
def StepMark.start? : StepMark → Option (String × Int)
  | .opened name start => some (name, start)
  | _ => none

namespace Reading

/-- The steps of a reading, wherever they stand. -/
def steps (r : Reading) : List StepResult :=
  everyStepIn r.root.steps

/-- The steps of a reading are those inside and those that are left for later. -/
private theorem steps_eq (r : Reading) :
    r.steps = everyStepIn r.inside.steps ++ everyStepIn (r.later.flatMap (·.2.steps)) :=
  everyStepIn_append _ _

/-- A closing does not change which steps there are. -/
private theorem steps_closed (closing : StepClosing) (r : Reading) :
    steps { later := (closing, r.inside) :: r.later } = r.steps := by
  rw [steps_eq, steps_eq, List.flatMap_cons, everyStepIn_append]
  rfl

/-- An opening puts one step before all others. -/
private theorem exists_steps_enclose (atEnd : Option StepClosing) (name : String) (start : Int)
    (r : Reading) : ∃ closing inside, (r.enclose atEnd (stepOf name start)).steps
        = stepOf name start closing inside :: r.steps
      ∧ closing = (r.later.head?.map (·.1)).or atEnd := by
  obtain ⟨inside, later⟩ := r
  cases later with
  -- nothing closes the step, so it is closed at the end, if at all
  | nil =>
    refine ⟨atEnd, inside, ?_, rfl⟩
    rw [steps_eq, steps_eq]
    simp [enclose, everyStepIn, everyStep_eq, stepOf]
  -- the first closing that is left is its own
  | cons first later =>
    obtain ⟨closing, after⟩ := first
    refine ⟨some closing, inside, ?_, rfl⟩
    rw [steps_eq, steps_eq]
    simp [enclose, everyStepIn, everyStep_eq, everyStepIn_append, stepOf]

end Reading

/-- An attachment is no step. -/
private theorem steps_attached (ref : AttachmentRef) (r : Reading) :
    Reading.steps { r with inside := { r.inside with attachments := ref :: r.inside.attachments } }
      = r.steps := rfl

/-- The steps are those that are opened, in order. -/
theorem starts_contentsOf (atEnd : Option StepClosing) (marks : List StepMark) :
    (everyStepIn (contentsOf atEnd marks).steps).map (fun s => (s.name, s.start))
      = marks.filterMap (·.start?) := by
  show (readMarks atEnd marks).steps.map _ = _
  induction marks with
  | nil => rfl
  | cons mark rest ih =>
    cases mark with
    -- the step that is opened comes first, and what follows is as in the rest
    | opened name start =>
      obtain ⟨closing, inside, hsteps, -⟩ :=
        (readMarks atEnd rest).exists_steps_enclose atEnd name start
      rw [readMarks, hsteps, List.map_cons, ih]
      rfl
    -- a closing and an attachment start no step
    | closed closing =>
      rw [readMarks, Reading.steps_closed, ih]
      rfl
    | attached ref =>
      rw [readMarks, steps_attached, ih]
      rfl

/-- The first closing has no opening, and the last step no closing. -/
example : (contentsOf none [.closed ⟨.passed, 1, none⟩, .opened "a" 2, .opened "b" 3,
      .closed ⟨.failed, 4, none⟩]).steps
    = [stepOf "a" 2 none { steps := [stepOf "b" 3 (some ⟨.failed, 4, none⟩) {}] }] := rfl

/-- A step that has been closed. -/
structure StepResult.Finished (s : StepResult) : Prop where
  stage : s.stage = .finished
  status : s.status.isSome
  stop : s.stop.isSome

/-- A step that has not been closed. -/
structure StepResult.Unfinished (s : StepResult) : Prop where
  stage : s.stage = .running
  status : s.status = none
  stop : s.stop = none
  details : s.details = none

/-- A step with a closing has finished. -/
private theorem finished_stepOf (name : String) (start : Int) (closing : StepClosing)
    (inside : Contents) :
    (stepOf name start (some closing) inside).Finished :=
  ⟨rfl, rfl, rfl⟩

/-- A step without one has not. -/
private theorem unfinished_stepOf (name : String) (start : Int) (inside : Contents) :
    (stepOf name start none inside).Unfinished :=
  ⟨rfl, rfl, rfl, rfl⟩

/-- No step goes on running when steps without a closing are closed at the end. -/
theorem finished_contentsOf (atEnd : StepClosing) (marks : List StepMark) :
    ∀ s ∈ everyStepIn (contentsOf (some atEnd) marks).steps, s.Finished := by
  show ∀ s ∈ (readMarks (some atEnd) marks).steps, s.Finished
  induction marks with
  | nil => exact nofun
  | cons mark rest ih =>
    cases mark with
    | opened name start =>
      obtain ⟨closing, inside, hsteps, hclosing⟩ :=
        (readMarks (some atEnd) rest).exists_steps_enclose (some atEnd) name start
      rw [readMarks, hsteps]
      refine List.forall_mem_cons.2 ⟨?_, ih⟩
      -- a step is closed by its own stop, or at the end
      cases hlater : (readMarks (some atEnd) rest).later.head? <;> rw [hlater] at hclosing <;>
        exact hclosing ▸ finished_stepOf name start _ inside
    -- neither of the others adds a step
    | closed closing =>
      rw [readMarks, Reading.steps_closed]
      exact ih
    | attached ref => exact ih

/-- A step is running just if it has no closing. -/
private theorem stage_stepOf_eq_running (name : String) (start : Int) (closing : Option StepClosing)
    (inside : Contents) : (stepOf name start closing inside).stage = .running ↔ closing = none := by
  cases closing <;> simp [stepOf]

/-- Enclosing what is inside takes the first of what is left for later. -/
private theorem Reading.later_enclose (atEnd : Option StepClosing)
    (step : Option StepClosing → Contents → StepResult) (r : Reading) :
    (r.enclose atEnd step).later = r.later.tail := by
  obtain ⟨inside, _ | ⟨first, later⟩⟩ := r <;> rfl

/-- Closings without an opening close steps that are open before the marks; what is opened by the
marks and not closed is open after them. -/
private theorem foldl_depth (marks : List StepMark) (n : Nat) :
    marks.foldl StepMark.depth n = n - (readMarks none marks).later.length
      + ((readMarks none marks).steps.filter (·.stage = .running)).length := by
  induction marks generalizing n with
  | nil => rfl
  | cons mark rest ih =>
    cases mark with
    -- a step comes to the chain
    | opened name start =>
      obtain ⟨closing, inside, hsteps, hclosing⟩ :=
        (readMarks none rest).exists_steps_enclose none name start
      rw [List.foldl_cons, StepMark.depth, ih, readMarks, hsteps, Reading.later_enclose,
        List.filter_cons]
      simp only [stage_stepOf_eq_running, decide_eq_true_eq]
      cases hlater : (readMarks none rest).later with
      | nil =>
        -- nothing closes the new step: it is one more that goes on running
        rw [hlater] at hclosing
        have hnone : closing = none := hclosing
        rw [if_pos hnone]
        simp only [List.tail_nil, List.length_nil, List.length_cons]
        omega
      | cons first later =>
        -- the first closing is that of the new step, and does not reach the steps around it
        rw [hlater] at hclosing
        have hsome : closing ≠ none := hclosing ▸ nofun
        rw [if_neg hsome]
        simp only [List.tail_cons, List.length_cons]
        omega
    -- a step is taken off the chain
    | closed closing =>
      rw [List.foldl_cons, StepMark.depth, ih, readMarks, Reading.steps_closed]
      simp only [List.length_cons]
      omega
    | attached ref =>
      rw [List.foldl_cons, StepMark.depth, ih]
      rfl

/-- A step without a closing goes on running, and there are as many of them as are open after the
marks. -/
theorem unfinished_contentsOf (marks : List StepMark) :
    (∀ s ∈ everyStepIn (contentsOf none marks).steps, s.Finished ∨ s.Unfinished)
      ∧ ((everyStepIn (contentsOf none marks).steps).filter (·.stage = .running)).length
        = openAfter marks := by
  constructor
  · show ∀ s ∈ (readMarks none marks).steps, s.Finished ∨ s.Unfinished
    induction marks with
    | nil => exact nofun
    | cons mark rest ih =>
      cases mark with
      | opened name start =>
        obtain ⟨closing, inside, hsteps, -⟩ :=
          (readMarks none rest).exists_steps_enclose none name start
        rw [readMarks, hsteps]
        -- a step with a closing has finished, and one without has not
        refine List.forall_mem_cons.2 ⟨?_, ih⟩
        cases closing with
        | none => exact .inr (unfinished_stepOf name start inside)
        | some closing => exact .inl (finished_stepOf name start closing inside)
      | closed closing =>
        rw [readMarks, Reading.steps_closed]
        exact ih
      | attached ref => exact ih
  -- the steps that are running are as many as the depth that the marks reach
  · have hdepth := foldl_depth marks 0
    rw [Nat.zero_sub, Nat.zero_add] at hdepth
    exact hdepth.symm

/-! ### Open tests -/

/-- The steps and attachments of a test. -/
def TestResult.contents (r : TestResult) : Contents :=
  ⟨r.steps, r.attachments⟩

/-- The step with more contents. -/
def StepResult.extend (s : StepResult) (inside : Contents) : StepResult :=
  { s with
    steps := s.steps ++ inside.steps
    attachments := s.attachments ++ inside.attachments }

/-- A step that is extended by nothing is the same. -/
private theorem StepResult.extend_empty (s : StepResult) : s.extend {} = s := by
  obtain ⟨name, start, stop, status, details, stage, steps, attachments⟩ := s
  simp [extend]

/-- The step with the rest of its contents, once it is closed. -/
def StepResult.rest (s : StepResult) (closing : Option StepClosing) (inside : Contents) :
    StepResult :=
  match closing with
  | none => s.extend inside
  | some closing => (s.extend inside).closed closing.status closing.stop closing.details

namespace OpenTest

/-- What becomes of the steps and attachments of an open test with this reading. -/
def plug (t : OpenTest) (atEnd : Option StepClosing) (r : Reading) : Contents :=
  t.result.contents ++ (t.openSteps.foldl (fun r s => r.enclose atEnd s.rest) r).root

/-- What becomes of them after some marks. -/
def outlook (t : OpenTest) (atEnd : Option StepClosing) (marks : List StepMark) : Contents :=
  t.plug atEnd (readMarks atEnd marks)

variable (t : OpenTest) (atEnd : Option StepClosing) (marks : List StepMark)

/-- A step that has been opened is a mark that has been read. -/
theorem outlook_openStep (name : String) (start : Int) :
    (t.openStep name start).outlook atEnd marks
      = t.outlook atEnd (.opened name start :: marks) := by
  have hrest : StepResult.rest { name := name, start := start } = stepOf name start := by
    funext closing inside
    cases closing <;> simp [StepResult.rest, StepResult.extend, StepResult.closed, stepOf]
  simp only [outlook, plug, openStep, List.foldl_cons, hrest, readMarks]

/-- Encloses the same when the step comes out the same. -/
private theorem enclose_congr {r r' : Reading}
    {step step' : Option StepClosing → Contents → StepResult} (hlater : r.later = r'.later)
    (hstep : ∀ closing, step closing r.inside = step' closing r'.inside) :
    r.enclose atEnd step = r'.enclose atEnd step' := by
  obtain ⟨inside, later⟩ := r
  obtain ⟨inside', later'⟩ := r'
  obtain rfl : later = later' := hlater
  cases later <;> simp only [Reading.enclose, hstep]

/-- A file that has been attached is a mark that has been read. -/
theorem outlook_attach (ref : AttachmentRef) :
    (t.attach ref).outlook atEnd marks = t.outlook atEnd (.attached ref :: marks) := by
  obtain ⟨result, openSteps⟩ := t
  cases openSteps with
  -- with no step open the file belongs to the test
  | nil =>
    simp [outlook, plug, attach, readMarks, Reading.root, TestResult.contents,
      Contents.append_def]
  | cons s rest =>
    -- the file is the first one of the innermost step
    have hrest : ∀ closing (inside : Contents), (s.attach ref).rest closing inside
        = s.rest closing { inside with attachments := ref :: inside.attachments } :=
      fun closing inside => by
        cases closing <;>
          simp [StepResult.rest, StepResult.extend, StepResult.attach, StepResult.closed]
    -- the file goes in front of what is still to come for the step
    have henclose : (readMarks atEnd marks).enclose atEnd (s.attach ref).rest
        = (readMarks atEnd (.attached ref :: marks)).enclose atEnd s.rest :=
      enclose_congr atEnd rfl fun closing => hrest closing _
    simp only [outlook, plug, attach, List.foldl_cons, henclose]

/-- A closing that meets an open step joins it to what is around it. -/
private theorem enclose_closed (s : StepResult) (closing : StepClosing) (r : Reading) :
    Reading.enclose atEnd s.rest { later := (closing, r.inside) :: r.later }
      = { r with
          inside := { r.inside with
            steps := s.closed closing.status closing.stop closing.details
              :: r.inside.steps } } := by
  simp only [Reading.enclose, StepResult.rest, StepResult.extend_empty]

/-- A step that has been closed is a mark that has been read. -/
theorem outlook_closeStep (status : Status) (stop : Int) (details : Option StatusDetails) :
    (t.closeStep status stop details).outlook atEnd marks
      = t.outlook atEnd (.closed ⟨status, stop, details⟩ :: marks) := by
  obtain ⟨result, openSteps⟩ := t
  match openSteps with
  | [] =>
    -- a closing without an opening
    simp [outlook, plug, closeStep, readMarks, Reading.root, Contents.append_def]
  | [s] =>
    -- the closed step joins the test itself
    simp only [outlook, plug, closeStep, readMarks, List.foldl_cons, List.foldl_nil, enclose_closed]
    simp [Reading.root, Contents.append_def, adopt, TestResult.contents]
  | s :: outer :: rest =>
    -- the closed step joins the step around it, before what that step contains later on
    have hrest : ∀ closing (inside : Contents),
        (outer.adopt (s.closed status stop details)).rest closing inside
          = outer.rest closing
            { inside with steps := s.closed status stop details :: inside.steps } :=
      fun closing inside => by
        cases closing <;>
          simp [StepResult.rest, StepResult.extend, StepResult.adopt, StepResult.closed]
    let inside := (readMarks atEnd marks).inside
    have henclose : (readMarks atEnd marks).enclose atEnd
          (outer.adopt (s.closed status stop details)).rest
        = Reading.enclose atEnd outer.rest
          { readMarks atEnd marks with
            inside := { inside with steps := s.closed status stop details :: inside.steps } } :=
      enclose_congr atEnd rfl fun closing => hrest closing inside
    simp only [outlook, plug, closeStep, readMarks, List.foldl_cons, enclose_closed, henclose]
    rfl

/-- Where no step is open, the marks say what is added. -/
theorem outlook_of_closed (ht : t.openSteps = []) :
    t.outlook atEnd marks = t.result.contents ++ contentsOf atEnd marks := by
  simp only [outlook, plug, ht, List.foldl_nil, contentsOf]

/-- Steps that nothing closes are nested in each other. -/
private theorem foldl_enclose_none (s : StepResult) (rest : List StepResult) :
    rest.foldl (fun r outer => Reading.enclose none outer.rest r)
      ({ inside := { steps := [s] } } : Reading) = { inside := { steps := [s.nest rest] } } := by
  induction rest generalizing s with
  | nil => rfl
  | cons outer rest ih =>
    have hrest : outer.rest none { steps := [s] } = outer.adopt s := by
      simp [StepResult.rest, StepResult.extend, StepResult.adopt]
    rw [List.foldl_cons, StepResult.nest, ← ih, Reading.enclose, hrest]

/-- A record shows the open steps as steps that go on running. -/
theorem contents_snapshot : t.snapshot.contents = t.outlook none [] := by
  obtain ⟨result, openSteps⟩ := t
  cases openSteps with
  | nil => simp [outlook, plug, snapshot, readMarks, Reading.root, Contents.append_def]
  | cons s rest =>
    have hfirst : Reading.enclose none s.rest {} = { inside := { steps := [s] } } := by
      simp only [Reading.enclose, StepResult.rest, StepResult.extend_empty]
    simp only [outlook, plug, readMarks, List.foldl_cons, hfirst, foldl_enclose_none]
    simp [snapshot, adopt, Reading.root, Contents.append_def, TestResult.contents]

/-- Where a step is open, to close it first makes no difference in the end. -/
private theorem outlook_closed_of_open (closing : StepClosing) {s : StepResult}
    {rest : List StepResult} (ht : t.openSteps = s :: rest) :
    t.outlook (some closing) [.closed closing] = t.outlook (some closing) [] := by
  simp only [outlook, plug, ht, List.foldl_cons, readMarks, Reading.enclose]

/-- All open steps are closed in the end. -/
theorem contents_closeSteps (status : Status) (stop : Int) {n : Nat} (hn : t.openSteps.length = n) :
    (t.closeSteps status stop n).openSteps = []
      ∧ (t.closeSteps status stop n).result.contents
        = t.outlook (some ⟨status, stop, none⟩) [] := by
  induction n generalizing t with
  | zero =>
    -- no step is open, so nothing is left to close
    have hnil := List.length_eq_zero_iff.1 hn
    refine ⟨hnil, ?_⟩
    rw [outlook_of_closed _ _ _ hnil]
    simp [closeSteps, contentsOf, readMarks, Reading.root, Contents.append_def]
  | succ n ih =>
    -- each closing takes one step off the chain and leaves the outlook as it was
    obtain ⟨s, rest, ht⟩ := List.exists_cons_of_length_eq_add_one hn
    have hlength : (t.closeStep status stop none).openSteps.length = n := by
      rw [length_closeStep, hn]
      rfl
    obtain ⟨hclosed, hcontents⟩ := ih _ hlength
    refine ⟨hclosed, hcontents.trans ?_⟩
    rw [outlook_closeStep, outlook_closed_of_open t _ ht]

end OpenTest

end Chronicle
