import Chronicle.Proofs.Replay.StepTree
import Mathlib.Data.List.Infix

/-!
# Steps by their positions

An open test keeps the steps that are open out of its record, in a chain. The record that it shows
holds them in their places, and there a step can be told by its position. `StepForest` is a test
that works on this record: it has the steps as they are shown, and a stack of the positions of those
that are open. A step that is opened is added inside the step at the top of the stack, one that is
closed is changed where it stands, and nothing is ever moved.

`OpenTest.forest` reads an open test as such a forest. Opening, closing and attaching come to the
same in both (`OpenTest.forest_openStep`, `OpenTest.forest_closeStep`, `OpenTest.forest_attach`).
-/
namespace Chronicle

/-! ### Positions -/

/-- The step with other steps inside it. -/
def StepResult.withSteps (s : StepResult) (steps : List StepResult) : StepResult :=
  { s with steps := steps }

/-- The steps of a step are those it was given. -/
@[simp] theorem StepResult.steps_withSteps (s : StepResult) (steps : List StepResult) :
    (s.withSteps steps).steps = steps := rfl

/-- A step that is given its own steps is itself. -/
@[simp] theorem StepResult.withSteps_self (s : StepResult) : s.withSteps s.steps = s := by
  cases s
  rfl

/-- Where a step stands: its place among the steps of the test, or, after the position of the step
that it is inside of, its place among the steps there. -/
abbrev Position := List Nat

/-- The step at a position. -/
def stepAt? : Position → List StepResult → Option StepResult
  | [], _ => none
  | [i], steps => steps[i]?
  | i :: j :: p, steps => steps[i]?.bind fun s => stepAt? (j :: p) s.steps

/-- The steps inside the step at a position, or all steps when there is no position. -/
def stepsAt : Position → List StepResult → List StepResult
  | [], steps => steps
  | i :: p, steps => (steps[i]?.map fun s => stepsAt p s.steps).getD []

/-- Changes the step at a position. -/
def changeAt (f : StepResult → StepResult) : Position → List StepResult → List StepResult
  | [], steps => steps
  | [i], steps => steps.modify i f
  | i :: j :: p, steps => steps.modify i fun s => s.withSteps (changeAt f (j :: p) s.steps)

/-- Adds a step inside the step at a position, or at the end when there is no position. -/
def addAt (new : StepResult) : Position → List StepResult → List StepResult
  | [], steps => steps ++ [new]
  | i :: p, steps => steps.modify i fun s => s.withSteps (addAt new p s.steps)

mutual

/-- The position of the last step inside a step, of the last step inside that, and so on. -/
def lastInside : StepResult → Position
  | ⟨_, _, _, _, _, _, steps, _⟩ => lastPosition steps

/-- The position that is reached from the last step by going on to the last step inside. -/
def lastPosition : List StepResult → Position
  | [] => []
  | s :: rest =>
    match lastPosition rest with
    | [] => 0 :: lastInside s
    | i :: p => (i + 1) :: p

end

/-- The positions of the last step, of the last step inside that, and so on. -/
def lastChain (steps : List StepResult) : List Position :=
  (lastPosition steps).inits.tail

/-- The last position inside a step is that among its steps. -/
private theorem lastInside_eq (s : StepResult) : lastInside s = lastPosition s.steps := by
  cases s
  rw [lastInside]

/-- The last position is inside the step that was added last. -/
private theorem lastPosition_snoc (steps : List StepResult) (s : StepResult) :
    lastPosition (steps ++ [s]) = steps.length :: lastPosition s.steps := by
  induction steps with
  | nil => simp only [List.nil_append, lastPosition, lastInside_eq, List.length_nil]
  | cons first rest ih => simp only [List.cons_append, lastPosition, ih, List.length_cons]

/-! ### Forests -/

/-- The steps of a test as they are shown, and the positions of those that are open, the innermost
first. -/
structure StepForest where
  steps : List StepResult := []
  stack : List Position := []
  deriving Repr, Inhabited

namespace StepForest

/-- The position of the innermost open step. There is none when no step is open. -/
def top (f : StepForest) : Position :=
  f.stack.headD []

/-- Opens a step inside the innermost open one. -/
def openStep (f : StepForest) (name : String) (start : Int) : StepForest where
  steps := addAt { name := name, start := start } f.top f.steps
  stack := (f.top ++ [(stepsAt f.top f.steps).length]) :: f.stack

/-- Closes the innermost open step, if there is one. -/
def closeStep (f : StepForest) (status : Status) (stop : Int) (details : Option StatusDetails) :
    StepForest where
  steps := changeAt (·.closed status stop details) f.top f.steps
  stack := f.stack.tail

/-- Adds an attachment to the innermost open step. Without one the attachment goes elsewhere. -/
def attach (f : StepForest) (ref : AttachmentRef) : StepForest where
  steps := changeAt (·.attach ref) f.top f.steps
  stack := f.stack

/-- Applies an entry; an attachment gets the source of a given handle. -/
def apply (next : Handle) (f : StepForest) : TestEntry → StepForest
  | .stepStart name start => f.openStep name start
  | .stepStop status stop details => f.closeStep status stop details
  | .metadata .. => f
  | .attachment file =>
    f.attach ⟨file.name, Backend.sourceName next file.contentType, file.contentType⟩

/-- What a test without steps becomes by some entries. -/
inductive Built : List TestEntry → StepForest → Prop
  | empty : Built [] {}
  | snoc {entries : List TestEntry} {f : StepForest} (h : Built entries f) (n : Nat)
      (e : TestEntry) : Built (entries ++ [e]) (f.apply (.drawn n) e)

/-- Without entries a forest is empty. -/
theorem Built.eq_empty {f : StepForest} (h : Built [] f) : f = {} := by
  generalize hentries : ([] : List TestEntry) = entries at h
  cases h with
  | empty => rfl
  | snoc => exact absurd hentries (by simp)

/-- The last entry has been applied last. -/
theorem Built.exists_apply {f : StepForest} (e : TestEntry) (entries : List TestEntry)
    (h : Built (entries ++ [e]) f) : ∃ g n, Built entries g ∧ f = g.apply (.drawn n) e := by
  generalize hentries : entries ++ [e] = all at h
  cases h with
  | empty => exact absurd hentries (by simp)
  | snoc h n e' =>
    obtain ⟨rfl, rfl⟩ : entries = _ ∧ e = e' := by simpa using hentries
    exact ⟨_, n, h, rfl⟩

end StepForest

/-! ### Chains -/

/-- The steps with a chain of steps at the end of them, the outermost first, each inside the one
before. -/
def chainedIn (steps : List StepResult) : List StepResult → List StepResult
  | [] => steps
  | s :: inner => steps ++ [s.withSteps (chainedIn s.steps inner)]

/-- The position of the innermost step of the chain. -/
def positionIn (steps : List StepResult) : List StepResult → Position
  | [] => []
  | s :: inner => steps.length :: positionIn s.steps inner

section chains

variable (steps chain : List StepResult) (s : StepResult)

/-- Looks at the step that stands after some others. -/
private theorem modify_snoc (f : StepResult → StepResult) :
    (steps ++ [s]).modify steps.length f = steps ++ [f s] := by
  induction steps with
  | nil => rfl
  | cons first rest ih => simp [ih]

/-- The next step joins the chain at its end. -/
private theorem addAt_chainedIn : addAt s (positionIn steps chain) (chainedIn steps chain)
    = chainedIn steps (chain ++ [s]) := by
  induction chain generalizing steps with
  | nil => simp only [positionIn, chainedIn, addAt, List.nil_append, StepResult.withSteps_self]
  | cons outer inner ih =>
    simp only [positionIn, chainedIn, addAt, List.cons_append, modify_snoc,
      StepResult.steps_withSteps, ih]
    rfl

/-- The innermost step of the chain stands as it is. -/
private theorem changeAt_chainedIn (f : StepResult → StepResult) :
    changeAt f (positionIn steps (chain ++ [s])) (chainedIn steps (chain ++ [s]))
      = chainedIn steps (chain ++ [f s]) := by
  induction chain generalizing steps with
  | nil =>
    simp only [List.nil_append, positionIn, chainedIn, changeAt, modify_snoc,
      StepResult.withSteps_self]
  | cons outer inner ih =>
    -- the position goes on inside the outer step
    obtain ⟨i, p, hp⟩ : ∃ i p, positionIn outer.steps (inner ++ [s]) = i :: p := by
      cases inner <;> exact ⟨_, _, rfl⟩
    have hinner := ih outer.steps
    rw [hp] at hinner
    simp only [List.cons_append, positionIn, chainedIn, hp, changeAt, modify_snoc,
      StepResult.steps_withSteps, hinner]
    rfl

/-- The position of the next step says how many there are where it is added. -/
private theorem positionIn_snoc : positionIn steps (chain ++ [s])
    = positionIn steps chain
      ++ [(stepsAt (positionIn steps chain) (chainedIn steps chain)).length] := by
  induction chain generalizing steps with
  | nil => rfl
  | cons outer inner ih => simp [positionIn, chainedIn, stepsAt, ih]

/-- The position of the innermost step does not depend on the step. -/
private theorem positionIn_snoc_congr (s' : StepResult) :
    positionIn steps (chain ++ [s]) = positionIn steps (chain ++ [s']) := by
  rw [positionIn_snoc, positionIn_snoc]

/-- To join the step around it changes nothing in what is shown. -/
private theorem chainedIn_adopt (inner : StepResult) :
    chainedIn steps (chain ++ [s.adopt inner]) = chainedIn steps (chain ++ [s, inner]) := by
  induction chain generalizing steps with
  | nil =>
    simp only [List.nil_append, chainedIn, StepResult.withSteps_self]
    rfl
  | cons outer rest ih => simp only [List.cons_append, chainedIn, ih]

/-- The innermost step of the chain is reached by going on to the last step each time. -/
theorem positionIn_isPrefix : positionIn steps chain <+: lastPosition (chainedIn steps chain) := by
  induction chain generalizing steps with
  | nil => exact List.nil_prefix
  | cons outer inner ih =>
    rw [positionIn, chainedIn, lastPosition_snoc]
    exact (List.prefix_cons_inj _).2 (ih outer.steps)

end chains

/-! ### Open tests -/

/-- The positions of the steps of a chain, the innermost first in both. -/
def positionsIn (steps : List StepResult) : List StepResult → List Position
  | [] => []
  | s :: outer => positionIn steps (s :: outer).reverse :: positionsIn steps outer

/-- The first of the positions is that of the innermost step. -/
private theorem headD_positionsIn (steps chain : List StepResult) :
    (positionsIn steps chain).headD [] = positionIn steps chain.reverse := by
  cases chain <;> rfl

/-- The positions do not depend on the innermost step. -/
private theorem positionsIn_congr (steps : List StepResult) (s s' : StepResult)
    (outer : List StepResult) :
    positionsIn steps (s :: outer) = positionsIn steps (s' :: outer) := by
  rw [positionsIn, positionsIn, List.reverse_cons, List.reverse_cons, positionIn_snoc_congr]

/-- The way to a position that goes on from another one. -/
theorem tail_inits_append (p q : Position) :
    (p ++ q).inits.tail = p.inits.tail ++ q.inits.tail.map (p ++ ·) := by
  have hne : p.inits ≠ [] := by
    cases p <;> exact List.cons_ne_nil _ _
  rw [List.inits_append, List.tail_append_of_ne_nil hne]

/-- The positions of a chain are those on the way to its innermost step. -/
theorem reverse_positionsIn (steps chain : List StepResult) :
    (positionsIn steps chain).reverse = (positionIn steps chain.reverse).inits.tail := by
  induction chain with
  | nil => rfl
  | cons s outer ih =>
    rw [positionsIn, List.reverse_cons, ih, List.reverse_cons, positionIn_snoc, tail_inits_append]
    rfl

/-- The positions of the open steps are those on the way to the innermost one. -/
theorem mem_positionsIn_iff {p : Position} (steps chain : List StepResult) :
    p ∈ positionsIn steps chain ↔ p ≠ [] ∧ p <+: positionIn steps chain.reverse := by
  induction chain with
  | nil => simp [positionsIn, positionIn]
  | cons s outer ih =>
    rw [positionsIn, List.mem_cons, ih, List.reverse_cons, positionIn_snoc,
      List.prefix_concat_iff]
    -- a beginning of the longer way is that way itself, or a beginning of the shorter one
    constructor
    · rintro (rfl | ⟨hne, hp⟩)
      · exact ⟨List.append_ne_nil_of_right_ne_nil _ (List.cons_ne_nil _ _), .inl rfl⟩
      · exact ⟨hne, .inr hp⟩
    · rintro ⟨hne, hp⟩
      exact hp.imp_right fun hp => ⟨hne, hp⟩

namespace OpenTest

variable (t : OpenTest)

/-- The steps of a test in the places where they are shown. -/
theorem steps_snapshot :
    t.snapshot.steps = chainedIn t.result.steps t.openSteps.reverse := by
  obtain ⟨result, openSteps⟩ := t
  cases openSteps with
  | nil => rfl
  | cons s outer =>
    show result.steps ++ [s.nest outer] = _
    -- by induction on the chain, from the innermost step outwards
    induction outer generalizing s with
    | nil =>
      simp only [List.reverse_singleton, chainedIn, StepResult.nest, StepResult.withSteps_self]
    | cons outer rest ih =>
      rw [StepResult.nest, ih, List.reverse_cons, chainedIn_adopt]
      simp only [List.reverse_cons, List.append_assoc, List.singleton_append]

/-- A test with its steps as they are shown. -/
def forest : StepForest where
  steps := t.snapshot.steps
  stack := positionsIn t.result.steps t.openSteps

/-- The forest of a test holds its steps as they are shown, and the positions of those that are
open. -/
theorem forest_eq : t.forest
    = ⟨chainedIn t.result.steps t.openSteps.reverse, positionsIn t.result.steps t.openSteps⟩ := by
  rw [forest, steps_snapshot]

/-- The top of the stack is the position of the innermost step. -/
private theorem top_forest : t.forest.top = positionIn t.result.steps t.openSteps.reverse :=
  headD_positionsIn _ _

/-- A step is opened in the test and in its forest alike. -/
theorem forest_openStep (name : String) (start : Int) :
    (t.openStep name start).forest = t.forest.openStep name start := by
  simp only [StepForest.openStep, top_forest]
  simp only [forest_eq, openStep, List.reverse_cons, positionsIn, positionIn_snoc]
  rw [← addAt_chainedIn t.result.steps t.openSteps.reverse { name := name, start := start }]

/-- A file is attached in the test and in its forest alike. -/
theorem forest_attach (ref : AttachmentRef) :
    (t.attach ref).forest = t.forest.attach ref := by
  obtain ⟨result, openSteps⟩ := t
  cases openSteps with
  | nil => rfl
  | cons s outer =>
    simp only [StepForest.attach, top_forest]
    simp only [forest_eq, attach, List.reverse_cons, changeAt_chainedIn]
    rw [positionsIn_congr]

/-- A step is closed in the test and in its forest alike. -/
theorem forest_closeStep (status : Status) (stop : Int) (details : Option StatusDetails) :
    (t.closeStep status stop details).forest = t.forest.closeStep status stop details := by
  obtain ⟨result, openSteps⟩ := t
  match openSteps with
  | [] => rfl
  -- the outermost step goes into the test, any other into the step around it
  | [s] =>
    simp only [StepForest.closeStep, top_forest]
    simp only [forest_eq, closeStep, List.reverse_cons, changeAt_chainedIn]
    rfl
  | s :: outer :: rest =>
    simp only [StepForest.closeStep, top_forest]
    simp only [forest_eq, closeStep, List.reverse_cons, changeAt_chainedIn, chainedIn_adopt]
    rw [positionsIn_congr _ _ outer]
    simp [positionsIn]

end OpenTest

end Chronicle
