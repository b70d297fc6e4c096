import Chronicle.Proofs.Replay.Outcome

/-!
# Messages one after another

Only the last message of a log is special, and only in that it may finalize the open test, which the
end of the log does anyway. So what a replay writes is what `Standing.steps` says, with whatever is
open at the end: `Standing.core_replay`. Fixtures are left out of this, since a test that the last
message finalizes is written before the fixtures are stopped and not after.
-/
namespace Chronicle

/-- Whether an operation is one on fixtures. -/
def Operation.onFixture : Operation → Bool
  | .startFixture | .updateFixture | .stopFixture => true
  | _ => false

namespace Standing

variable {isAfterAll : String → Bool}

/-- What messages do of which none is the last one of its log. -/
def steps (isAfterAll : String → Bool) (log : List Message) (st : Standing) : Standing :=
  log.foldl (fun st m => st.step isAfterAll m) st

/-- An empty log takes no steps. -/
@[simp] theorem steps_nil (st : Standing) : st.steps isAfterAll [] = st := rfl

/-- The first message is taken before the rest. -/
@[simp] theorem steps_cons (m : Message) (log : List Message) (st : Standing) :
    st.steps isAfterAll (m :: log) = (st.step isAfterAll m).steps isAfterAll log := rfl

/-- Logs one after the other take their steps one after the other. -/
theorem steps_append (log log' : List Message) (st : Standing) :
    st.steps isAfterAll (log ++ log') = (st.steps isAfterAll log).steps isAfterAll log' :=
  List.foldl_append

/-- The last message is taken after the others. -/
theorem steps_snoc (log : List Message) (m : Message) (st : Standing) :
    st.steps isAfterAll (log ++ [m]) = (st.steps isAfterAll log).step isAfterAll m :=
  steps_append log [m] st

/-- The steps of a log are moves, by induction on the log. -/
theorem moves_steps (isAfterAll : String → Bool) (log : List Message) (st : Standing) :
    Moves st (st.steps isAfterAll log) := by
  induction log generalizing st with
  | nil => exact .refl
  | cons m rest ih => exact (moves_step isAfterAll m st).trans (ih _)

/-- The last message of a log may finalize the open test, no other one differs. -/
theorem dispatchAll_eq (isAfterAll : String → Bool) (log : List Message) (st : Standing) :
    st.dispatchAll isAfterAll log = st.steps isAfterAll log
      ∨ st.dispatchAll isAfterAll log = (st.steps isAfterAll log).finalize := by
  induction log generalizing st with
  -- only the last message may finalize the test on top of its step
  | nil => exact .inl rfl
  | cons m rest ih =>
    cases rest with
    | nil =>
      simp only [dispatchAll, dispatch, steps_cons, steps_nil]
      split
      · exact .inr rfl
      · exact .inl rfl
    | cons m' rest =>
      -- a message with others after it is not the last one
      have hdispatch : st.dispatch isAfterAll false m = st.step isAfterAll m := rfl
      simp only [dispatchAll, List.isEmpty_cons, hdispatch, steps_cons]
      exact ih _

/-! ### The end of a log -/

/-- The standing without what it says about fixtures that run. -/
def core (st : Standing) : Standing :=
  { st with
    running := []
    fixtures := []
    calls := st.calls.filter fun call => !call.1.onFixture }

/-- Writes whatever is open, except for fixtures. -/
def drain (st : Standing) : Standing :=
  st.finalize.closeScopes st.finalize.scopes

/-- Fixtures that are stopped do not show without fixtures. -/
private theorem core_stopFixtures (hs : List Handle) (st : Standing) :
    (st.stopFixtures hs).core = st.core := by
  induction hs generalizing st with
  | nil => rfl
  | cons h rest ih =>
    refine (ih _).trans ?_
    cases hr : st.running <;> simp [stopFixture, core, hr, Operation.onFixture]

/-- A scope may be closed with or without fixtures. -/
private theorem core_closeScope (st : Standing) : st.closeScope.core = st.core.closeScope := by
  cases hs : st.scopes <;> simp [closeScope, core, hs, Operation.onFixture]

/-- A test may be written with or without fixtures. -/
private theorem core_writeTest (st : Standing) : st.writeTest.core = st.core.writeTest := by
  cases hc : st.current <;> simp [writeTest, core, hc, Operation.onFixture]

/-- A test may be finalized with or without fixtures. -/
private theorem core_finalize (st : Standing) : st.finalize.core = st.core.finalize := by
  cases hc : st.current with
  | none => simp [finalize, core, hc]
  | some c =>
    have hc' : st.core.current = some c := hc
    simp only [finalize, hc, hc', core_writeTest, core_closeScope]

/-- Scopes may be closed with or without fixtures. -/
private theorem core_closeScopes (scopes : List Scope) (st : Standing) :
    (st.closeScopes scopes).core = st.core.closeScopes scopes := by
  induction scopes generalizing st with
  | nil => rfl
  | cons s rest ih => exact (ih _).trans (congrArg _ (core_closeScope st))

/-- Stopping the fixtures is all that the end of a replay does besides. -/
private theorem core_settle (st : Standing) : st.settle.core = st.drain.core := by
  have hstop := core_stopFixtures st.running st
  have hfinalize := (core_finalize (st.stopFixtures st.running)).trans
    ((congrArg finalize hstop).trans (core_finalize st).symm)
  have hscopes : (st.stopFixtures st.running).finalize.scopes = st.finalize.scopes :=
    congrArg (·.scopes) hfinalize
  simp only [settle, drain, core_closeScopes, hfinalize, hscopes]

/-- A test is finalized once. -/
private theorem finalize_finalize (st : Standing) : st.finalize.finalize = st.finalize := by
  have hc := current_finalize st
  generalize st.finalize = st' at hc
  simp only [finalize, hc]

/-- What is left at the end is finalized anyway. -/
private theorem drain_finalize (st : Standing) : st.finalize.drain = st.drain := by
  simp only [drain, finalize_finalize]

/-- What a replay writes is what its messages write one after another, and whatever is open then. -/
theorem core_replay (isAfterAll : String → Bool) (log : List Message) (st : Standing) :
    (st.replay isAfterAll log).core = (st.steps isAfterAll log).drain.core := by
  rcases dispatchAll_eq isAfterAll log st with heq | heq
  · rw [replay, heq, core_settle]
  · rw [replay, heq, core_settle, drain_finalize]

/-- What is done at the end is made of moves. -/
theorem moves_drain (st : Standing) : Moves st st.drain :=
  (moves_finalize st).trans (moves_closeScopes _ _)

end Standing

end Chronicle
