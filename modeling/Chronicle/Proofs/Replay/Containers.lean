import Chronicle.Proofs.Replay.Outcome
import Chronicle.Proofs.Report.Filed

/-!
# The files of scopes and the finished report

The file of a scope is written when the scope is, and never again. A hook that runs at that moment
goes on being part of the scope: its end is found in the report and not in the file. All other hooks
are the same in both: `Machine.containers_of_replay`.
-/
namespace Chronicle

variable {isAfterAll : String → Bool} {synchronised : Bool}

private theorem Backend.callsFollow_machine (b₀ : Backend) :
    (machine isAfterAll synchronised).CallsFollow b₀.GetsStuck (Mirrors b₀)
      (machine isAfterAll synchronised) :=
  ⟨callsFollow_reporter b₀, rfl, rfl⟩

/-- The replays into a report and into what remains of it without its directory begin alike. -/
private theorem Machine.related_forget (b : Backend) (s : Session) :
    Pass.Related (Backend.Mirrors b) ⟨s, b⟩ ⟨s, b.forget⟩ :=
  ⟨rfl, .refl, rfl⟩

/-- A replay into a results directory goes through steps, and it leaves what the same replay leaves
in memory. Or else a file cannot be written. -/
private theorem Machine.steps_or_stuck {b : Backend} (hb : b.forget.Idle)
    (isAfterAll : String → Bool) (synchronised : Bool) (contextId : String) (log : List Message) :
    (∃ p, Runs (Backend.machine isAfterAll synchronised).replay
        ⟨{ contextId := contextId, log := log }, b⟩ () p ∧ Backend.Steps b p.world
        ∧ p.world.forget = ((Standing.initial b.forget).replay isAfterAll log).report b.forget)
      ∨ b.GetsStuck ∧ ∃ e q, (Backend.machine isAfterAll synchronised).replay
        ⟨{ contextId := contextId, log := log }, b⟩ = .error e q := by
  have hmemory := Machine.runs_replay hb isAfterAll synchronised contextId log
  rcases (Backend.callsFollow_machine b).replay (related_forget b _) hmemory with
    ⟨p, hp, hrel⟩ | ⟨hstuck, herror⟩
  · exact .inl ⟨p, hp, hrel.world.steps, hrel.world.forget⟩
  · exact .inr ⟨hstuck, herror⟩

private theorem Machine.steps_of_replay {b : Backend} (hb : b.forget.Idle) {contextId : String}
    {log : List Message} {p : Pass Backend}
    (hp : Runs (Backend.machine isAfterAll synchronised).replay
      ⟨{ contextId := contextId, log := log }, b⟩ () p) :
    Backend.Steps b p.world
      ∧ p.world.forget = ((Standing.initial b.forget).replay isAfterAll log).report b.forget := by
  rcases steps_or_stuck hb isAfterAll synchronised contextId log with
    ⟨q, hq, hsteps, hforget⟩ | ⟨-, e, q, hq⟩
  · obtain ⟨-, rfl⟩ := hp.unique hq
    exact ⟨hsteps, hforget⟩
  · cases hp.symm.trans hq

/-! ### One replay after another -/

namespace Backend

/-- A report in a results directory that has been used for nothing but replays, all of which have
succeeded: each one of a session that held nothing open. -/
inductive BetweenReplaysIn (root : Path) : Backend → Prop
  | fresh {disk : FileTree} {b : Backend} (hb : inDirectory disk root = .ok b) :
      BetweenReplaysIn root b
  | replayed {b : Backend} (hb : BetweenReplaysIn root b) {isAfterAll : String → Bool}
      {synchronised : Bool} {contextId : String} {log : List Message} {p : Pass Backend}
      (h : Runs (machine isAfterAll synchronised).replay
        ⟨{ contextId := contextId, log := log }, b⟩ () p) : BetweenReplaysIn root p.world

variable {b : Backend} {root : Path}

theorem BetweenReplaysIn.idle (hb : b.BetweenReplaysIn root) : b.forget.Idle := by
  induction hb with
  | fresh hb =>
    rw [forget_inDirectory hb]
    exact idle_inMemory {}
  | replayed _ h ih =>
    rw [(Machine.steps_of_replay ih h).2]
    exact ih.report_replay _ _ _

private theorem BetweenReplaysIn.exists_housed (hb : b.BetweenReplaysIn root) :
    ∃ before, b.Housed before root := by
  induction hb with
  | fresh hb => exact ⟨_, housed_inDirectory hb⟩
  | replayed hb h ih =>
    obtain ⟨before, hhoused⟩ := ih
    exact ⟨before, Steps.housed (Machine.steps_of_replay hb.idle h).1 hhoused⟩

end Backend

namespace Machine

/-- In an empty directory no file is in the way of a replay. -/
private theorem exists_runs_replay {disk : FileTree} {root : Path} {b : Backend}
    (hb : Backend.inDirectory disk root = .ok b) (hempty : b.disk.IsEmptyDirectory root.steps)
    (isAfterAll : String → Bool) (synchronised : Bool) (contextId : String) (log : List Message) :
    ∃ p, Runs (Backend.machine isAfterAll synchronised).replay
      ⟨{ contextId := contextId, log := log }, b⟩ () p := by
  have hidle : b.forget.Idle := (Backend.BetweenReplaysIn.fresh hb).idle
  rcases steps_or_stuck hidle isAfterAll synchronised contextId log with ⟨p, hp, -⟩ | ⟨hstuck, -⟩
  · exact ⟨p, hp⟩
  · exact absurd hstuck ((Backend.housed_inDirectory hb).not_getsStuck hempty)

/-- What a replay into a results directory leaves, unless a file could not be written. The file of
each scope shows the scope with its children and its fixtures, each in its place. A fixture that was
stopped before the scope was written is shown by its record in the report, any other one by its
record at the start. So the file shows the record of the scope in the report just if all fixtures of
it were stopped before it was written. -/
theorem containers_of_replay {root : Path} {b : Backend} (hb : b.BetweenReplaysIn root)
    (contextId : String) (log : List Message) {p : Pass Backend}
    (hp : Runs (Backend.machine isAfterAll synchronised).replay
      ⟨{ contextId := contextId, log := log }, b⟩ () p) :
    ∀ s ∈ p.world.writtenScopes,
      p.world.disk.read (root.child (s.handle.name ++ "-container.json")).steps
          = .ok (Rendering.scopeJson (p.world.shownScope s)).octets
        ∧ (p.world.shownScope s = p.world.scopeResult s
          ↔ ∀ h ∈ s.fixtures, StoppedFirst p.world.calls h s.handle) := by
  intro s hs
  have hend := hb.replayed hp
  obtain ⟨before, hhoused⟩ := hend.exists_housed
  have hrunning : p.world.running = [] := hend.idle.running
  refine ⟨?_, Backend.shownScope_eq_iff hhoused.attended hrunning (hhoused.listing.written s hs)⟩
  have hstatus := hhoused.status_container hs
  simp only [containerFile, Backend.shownScope] at hstatus
  rw [root.steps_child (Backend.append_ne_dots _ (by decide))]
  exact FileTree.read_of_status hstatus

/-- A hook that ends before its suite does, and one that goes on for longer. -/
theorem containers_of_two_hooks :
    ∃ b, Backend.inDirectory {} ⟨"", ["out"]⟩ = .ok b
      ∧ ∃ p, Runs (Backend.machine (fun _ => false) true).replay
          ⟨{ contextId := "0-0", log := [.suiteStart "outer" false, .hookStart "a" .before 1,
            .hookEnd ⟨.passed, 2, none, none⟩, .hookStart "b" .before 3, .suiteEnd,
            .hookEnd ⟨.failed, 4, none, none⟩] }, b⟩ () p
        ∧ ∀ s ∈ p.world.writtenScopes,
          p.world.disk.read (Path.child ⟨"", ["out"]⟩ (s.handle.name ++ "-container.json")).steps
            = .ok (Rendering.scopeJson (p.world.shownScope s)).octets := by
  have hb : Backend.inDirectory {} ⟨"", ["out"]⟩ = .ok
      { destination := .directory ⟨"", ["out"]⟩
        disk := ({} : FileTree).fill ["out"] } := rfl
  obtain ⟨p, hp⟩ :=
    exists_runs_replay hb (FileTree.isEmptyDirectory_fill "out") (fun _ => false) true "0-0" _
  exact ⟨_, hb, p, hp, fun s hs => (containers_of_replay (.fresh hb) "0-0" _ hp s hs).1⟩

/-- A suite ends while a hook of it runs: in the file of its scope the hook never ends. -/
theorem stale_container_of_late_hook :
    ∃ b p, Backend.inDirectory {} ⟨"", ["out"]⟩ = .ok b
      ∧ Runs (Backend.machine (fun _ => false) true).replay
          ⟨{ contextId := "0-0", log := [.suiteStart "outer" false, .hookStart "a" .before 1,
            .suiteEnd, .hookEnd ⟨.passed, 2, none, none⟩] }, b⟩ () p
      ∧ ∃ s ∈ p.world.writtenScopes,
        p.world.disk.read (Path.child ⟨"", ["out"]⟩ (s.handle.name ++ "-container.json")).steps
          ≠ .ok (Rendering.scopeJson (p.world.scopeResult s)).octets := by
  -- the run is evaluated as a whole
  have hstale : (match Backend.inDirectory {} ⟨"", ["out"]⟩ with
    | .error _ => false
    | .ok b => match (Backend.machine (fun _ => false) true).replay
        ⟨{ contextId := "0-0", log := [.suiteStart "outer" false, .hookStart "a" .before 1,
          .suiteEnd, .hookEnd ⟨.passed, 2, none, none⟩] }, b⟩ with
      | .error _ _ => false
      | .ok _ p => p.world.writtenScopes.any fun s => decide
        (p.world.disk.read (Path.child ⟨"", ["out"]⟩ (s.handle.name ++ "-container.json")).steps
          ≠ .ok (Rendering.scopeJson (p.world.scopeResult s)).octets)) = true := by
    decide +kernel
  split at hstale
  · cases hstale
  · rename_i b hb
    split at hstale
    · cases hstale
    -- some scope was written whose file is not its record
    · rename_i p hp
      obtain ⟨s, hs, hne⟩ := List.any_eq_true.1 hstale
      exact ⟨b, p, hb, hp, s, hs, of_decide_eq_true hne⟩

end Machine

end Chronicle
