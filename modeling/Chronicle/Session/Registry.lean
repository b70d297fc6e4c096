import Chronicle.Replay.Machine

/-!
# The registry of sessions

One session for each execution context, made on first use. `drainAll` replays the sessions one after
another in the order of first use, and each one leaves the registry once it has been replayed. A
replay that fails ends the draining: its session and all later ones stay.
-/
namespace Chronicle

/-- The sessions of all execution contexts that have reported. -/
structure Registry where
  /-- The context that a message without a context belongs to. -/
  defaultContext : String := "0-0"
  sessions : List Session := []
  draining : Bool := false
  deriving DecidableEq, Repr, Inhabited

namespace Registry

/-- Why there is no registry. -/
inductive SetupError where
  | noDefaultContext
  deriving DecidableEq, Repr, Inhabited

/-- The text of a setup error. -/
def SetupError.message : SetupError → String
  | .noDefaultContext => "default_context_id must be a non-empty string"

/-- A registry without sessions. -/
def create (defaultContext : String) : Except SetupError Registry :=
  if defaultContext = "" then .error .noDefaultContext
  else .ok { defaultContext := defaultContext }

/-- Whether no drain is in progress. -/
def isSynchronised (r : Registry) : Bool :=
  !r.draining

/-- The context that an id stands for: no id and the empty one stand for the default. -/
def resolve (r : Registry) (contextId : Option String) : String :=
  match contextId with
  | none => r.defaultContext
  | some id => if id = "" then r.defaultContext else id

/-- The session of a context. -/
def find? (r : Registry) (id : String) : Option Session :=
  r.sessions.find? (·.contextId = id)

/-- Whether a context has a session. -/
def contains (r : Registry) (id : String) : Bool :=
  (r.find? id).isSome

/-- Makes a session for a context unless it has one. -/
def register (r : Registry) (contextId : Option String) : Registry :=
  let id := r.resolve contextId
  if r.contains id then r else { r with sessions := r.sessions ++ [{ contextId := id }] }

/-- The session of a context; a context without one has an empty one. -/
def sessionOf (r : Registry) (contextId : Option String) : Session :=
  let id := r.resolve contextId
  (r.find? id).getD { contextId := id }

/-- Adds a message to the log of a context, whose session is made on first use. -/
def push (r : Registry) (contextId : Option String) (m : Message) : Registry :=
  let id := r.resolve contextId
  let r := r.register contextId
  { r with sessions := r.sessions.map fun s => if s.contextId = id then s.push m else s }

/-- Adds the messages of events to the logs of their contexts. -/
def pushAll (r : Registry) (events : List (Option String × Message)) : Registry :=
  events.foldl (fun r e => r.push e.1 e.2) r

end Registry

/-- A registry, and the state of the reporter that its sessions are replayed into. -/
structure Workspace (σ : Type) where
  registry : Registry
  world : σ
  deriving Repr, Inhabited

namespace Workspace

variable {σ ε : Type}

/-- Changes the registry. -/
def changeRegistry (f : Registry → Registry) : EStateM ε (Workspace σ) Unit :=
  modify fun w => { w with registry := f w.registry }

/-- Replays a session. What it holds open is kept in the registry, also when the replay fails. -/
def replaySession (m : Machine σ ε) (s : Session) : EStateM ε (Workspace σ) Unit := fun w =>
  let keep (p : Pass σ) : Workspace σ :=
    ⟨{ w.registry with
      sessions := w.registry.sessions.map fun t =>
        if t.contextId = p.session.contextId then p.session else t }, p.world⟩
  match { m with synchronised := w.registry.isSynchronised }.replay ⟨s, w.world⟩ with
  | .ok _ p => .ok () (keep p)
  | .error e p => .error e (keep p)

/-- Drains sessions, one after another. -/
def drainSessions (m : Machine σ ε) : List Session → EStateM ε (Workspace σ) Unit
  | [] => pure ()
  | s :: rest => do
    replaySession m s
    changeRegistry fun r => { r with sessions := r.sessions.filter (·.contextId != s.contextId) }
    let synchronised := (← get).registry.isSynchronised
    Reporter.onPart Workspace.world (fun world w => { w with world := world }) id
      (m.reporter.note synchronised ⟨s.contextId, .sessionDrained s.log.length⟩)
    drainSessions m rest

/-- Drains all sessions. Whether it succeeds or fails, the registry is synchronised afterwards. -/
def drainAll (m : Machine σ ε) : EStateM ε (Workspace σ) Unit := fun w =>
  let w := { w with registry := { w.registry with draining := true } }
  let calm (w : Workspace σ) := { w with registry := { w.registry with draining := false } }
  match drainSessions m w.registry.sessions w with
  | .ok _ w => .ok () (calm w)
  | .error e w => .error e (calm w)

end Workspace

end Chronicle
