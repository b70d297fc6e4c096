import Chronicle.Proofs.Replay.StepTree

/-!
# What a test refers to

A test refers to attachments from its record and from its steps, at any depth. Opening and closing
steps moves references about and loses none; only an attachment adds one.
-/
namespace Chronicle

/-- The attachments of steps, at any depth. -/
def refsIn (steps : List StepResult) : List AttachmentRef :=
  (everyStepIn steps).flatMap (·.attachments)

/-- The attachments of a test, at any depth. -/
def TestResult.refs (r : TestResult) : List AttachmentRef :=
  r.attachments ++ refsIn r.steps

/-- The attachments of an open test, those of its open steps included. -/
def OpenTest.refs (t : OpenTest) : List AttachmentRef :=
  t.result.refs ++ refsIn t.openSteps

private theorem refsIn_cons (s : StepResult) (rest : List StepResult) :
    refsIn (s :: rest) = s.attachments ++ refsIn s.steps ++ refsIn rest := by
  simp only [refsIn, everyStepIn, everyStep_eq, List.flatMap_append, List.flatMap_cons]

private theorem refsIn_append (steps steps' : List StepResult) :
    refsIn (steps ++ steps') = refsIn steps ++ refsIn steps' := by
  simp only [refsIn, everyStepIn_append, List.flatMap_append]

@[simp] theorem refsIn_nil : refsIn [] = [] := rfl

namespace StepResult

variable {s : StepResult} {ref : AttachmentRef}

/-- A step that is adopted goes on referring to the same. -/
private theorem mem_refsIn_adopt {inner : StepResult} {rest : List StepResult} :
    ref ∈ refsIn (s.adopt inner :: rest) ↔ ref ∈ refsIn (inner :: s :: rest) := by
  have hadopt : (s.adopt inner).attachments = s.attachments := rfl
  have hsteps : (s.adopt inner).steps = s.steps ++ [inner] := rfl
  simp only [refsIn_cons, refsIn_append, refsIn_nil, hadopt, hsteps, List.mem_append,
    List.append_nil]
  grind

private theorem mem_refsIn_nest {outer : List StepResult} :
    ref ∈ refsIn [s.nest outer] ↔ ref ∈ refsIn (s :: outer) := by
  induction outer generalizing s with
  | nil => rfl
  | cons outer rest ih => rw [nest, ih, mem_refsIn_adopt]

end StepResult

namespace OpenTest

variable {t : OpenTest} {ref : AttachmentRef}

private theorem mem_refs_adopt {r : TestResult} {s : StepResult} :
    ref ∈ (adopt r s).refs ↔ ref ∈ r.refs ∨ ref ∈ refsIn [s] := by
  simp only [adopt, TestResult.refs, refsIn_append, List.mem_append, or_assoc]

theorem mem_refs_snapshot : ref ∈ t.snapshot.refs ↔ ref ∈ t.refs := by
  obtain ⟨result, _ | ⟨s, rest⟩⟩ := t
  · simp [snapshot, refs]
  · show ref ∈ (adopt result (s.nest rest)).refs ↔ _
    rw [mem_refs_adopt, StepResult.mem_refsIn_nest, refs, List.mem_append]

theorem mem_refs_closeStep {status : Status} {stop : Int} {details : Option StatusDetails} :
    ref ∈ (t.closeStep status stop details).refs ↔ ref ∈ t.refs := by
  -- closing a step leaves what it refers to alone
  have hclosed : ∀ (s : StepResult) (rest : List StepResult),
      refsIn (s.closed status stop details :: rest) = refsIn (s :: rest) := fun s rest => by
    rw [refsIn_cons, refsIn_cons]
    rfl
  obtain ⟨result, _ | ⟨s, _ | ⟨outer, rest⟩⟩⟩ := t
  · rfl
  · show ref ∈ (adopt result (s.closed status stop details)).refs ++ refsIn [] ↔ _
    rw [refsIn_nil, List.append_nil, mem_refs_adopt, hclosed, refs, List.mem_append]
  · show ref ∈ result.refs ++ refsIn (outer.adopt (s.closed status stop details) :: rest) ↔ _
    rw [List.mem_append, StepResult.mem_refsIn_adopt, hclosed, refs, List.mem_append]

theorem mem_refs_attach {new : AttachmentRef} :
    ref ∈ (t.attach new).refs ↔ ref = new ∨ ref ∈ t.refs := by
  obtain ⟨result, _ | ⟨s, rest⟩⟩ := t
  · simp only [attach, refs, TestResult.refs, refsIn_nil, List.append_nil, List.mem_append,
      List.mem_singleton]
    grind
  · have hattach : (s.attach new).attachments = s.attachments ++ [new] := rfl
    have hsteps : (s.attach new).steps = s.steps := rfl
    simp only [attach, refs, refsIn_cons, hattach, hsteps, List.mem_append, List.mem_singleton]
    grind

end OpenTest

end Chronicle
