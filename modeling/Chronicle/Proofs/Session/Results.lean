import Chronicle.Proofs.Replay.Tally
import Chronicle.Proofs.Report.Filed
import Chronicle.Proofs.Session.Draining

/-!
# What draining leaves in a results directory

Draining a registry into an empty results directory reports and notes the same as draining it in
memory does, and it succeeds. The files that it leaves are one for each test, one for each scope and
one for each attachment, and whatever they refer to is there: `Workspace.published_drainAll`.

The drain into the directory is followed to the one in memory with its notes, and that one to the
report by itself, of which everything is known.
-/
namespace Chronicle

/-! ### Desks -/

namespace Desk

/-- The machine that replays into the report of a desk. -/
def machine (isAfterAll : String → Bool) (synchronised : Bool) : Machine Desk ReportError :=
  { reporter := reporter, isAfterAll := isAfterAll, synchronised := synchronised }

theorem isPart_report : Reporter.IsPart report withReport :=
  ⟨fun _ _ => rfl, fun _ _ _ => rfl⟩

/-- The notes taken at a desk do not matter to its report. -/
theorem callsFollow_backend (isAfterAll : String → Bool) (synchronised : Bool) :
    (machine isAfterAll synchronised).CallsFollow False (fun d b => d.report = b)
      (Backend.machine isAfterAll synchronised) where
  reporter := by
    have hwhole : Reporter.IsPart (fun b : Backend => b) fun b _ => b :=
      ⟨fun _ _ => rfl, fun _ _ _ => rfl⟩
    -- a note is kept beside the report, which does not change
    have hnote : ∀ flag n, Follows False (fun (d : Desk) b => d.report = b) (reporter.note flag n)
        (Backend.reporter.note flag n) := by
      rintro flag n d _ rfl a b h
      obtain ⟨rfl, rfl⟩ := h.unique (.pure () d.report)
      exact .inl ⟨_, .change _ d, rfl⟩
    have hextend := (Reporter.CallsFollow.refl Backend.reporter).extend isPart_report hwhole
      (fun _ _ h => h) (fun _ _ _ _ _ h => h) id id hnote
    rwa [show Backend.reporter.extend (fun b => b) (fun b _ => b) id (fun _ => pure ())
      Backend.reporter.note = Backend.reporter from Backend.reporter.extend_id] at hextend
  isAfterAll := rfl
  synchronised := rfl

/-- The two desks have the same notes, and what is in memory at the second one is what remains of
the report at the first one. -/
structure Mirrors (b₀ : Backend) (d d' : Desk) : Prop where
  report : b₀.Mirrors d.report d'.report
  notes : d.notes = d'.notes

/-- With a directory and without one, the same notes are taken. -/
theorem callsFollow_memory (b₀ : Backend) (isAfterAll : String → Bool) (synchronised : Bool) :
    (machine isAfterAll synchronised).CallsFollow b₀.GetsStuck (Mirrors b₀)
      (machine isAfterAll synchronised) where
  reporter := by
    refine (Backend.callsFollow_reporter b₀).extend isPart_report isPart_report
      (fun _ _ h => h.report) (fun _ _ _ _ h hreport => ⟨hreport, h.notes⟩) id id fun flag n => ?_
    refine .change fun d d' h => ⟨h.report, ?_⟩
    show d.notes ++ [(flag, n)] = d'.notes ++ [(flag, n)]
    rw [h.notes]
  isAfterAll := rfl
  synchronised := rfl

end Desk

/-! ### Reports in a directory -/

namespace Backend

variable {b : Backend} {isAfterAll : String → Bool}

theorem Tallies.replayedAll {logs : List (List Message)} (h : b.Tallies isAfterAll logs)
    (sessions : List Session) :
    (b.replayedAll isAfterAll sessions).Tallies isAfterAll (logs ++ sessions.map (·.log)) := by
  induction sessions generalizing b logs with
  | nil => rwa [List.map_nil, List.append_nil]
  | cons s rest ih =>
    have hrest := ih (h.replayed s.log)
    rwa [List.append_assoc] at hrest

theorem Idle.replayedAll (hb : b.Idle) (isAfterAll : String → Bool) (sessions : List Session) :
    (b.replayedAll isAfterAll sessions).Idle := by
  induction sessions generalizing b with
  | nil => exact hb
  | cons s rest ih => exact ih (hb.report_replay isAfterAll s.log _)

/-- What a report in a results directory leaves there. -/
structure Published (isAfterAll : String → Bool) (logs : List (List Message)) (root : Path)
    (b : Backend) : Prop where
  /-- The report is that of the logs. -/
  tallies : b.Tallies isAfterAll logs
  /-- A file has been saved for each record and each attachment. -/
  files : b.saved.Perm b.files
  /-- No file has been saved twice. -/
  once : (b.saved.map (·.1)).Nodup
  /-- These files are there as they were saved, and nothing else is. -/
  present : ∀ name node, b.disk.status (root.steps ++ [name]) = .ok node
    ↔ ∃ content, (name, content) ∈ b.saved ∧ node = .file content
  /-- The file of each child of a scope is there. -/
  children : ∀ s ∈ b.writtenScopes, ∀ h ∈ (b.shownScope s).children, ∃ r ∈ b.writtenTests,
    r.handle = h ∧ b.disk.read (root.steps ++ [(resultFile r).1]) = .ok (resultFile r).2
  /-- The file of each attachment that a test refers to is there. -/
  sources : ∀ r ∈ b.writtenTests, ∀ ref ∈ r.refs, ∃ content, (ref.source, content) ∈ b.attachments
    ∧ b.disk.read (root.steps ++ [ref.source]) = .ok content

private theorem Housed.published {before : FileTree} {root : Path} (h : b.Housed before root)
    (hempty : before.IsEmptyDirectory root.steps) (htests : b.tests = [])
    {logs : List (List Message)} (ht : b.Tallies isAfterAll logs) :
    b.Published isAfterAll logs root where
  tallies := ht
  files := h.filed
  once := (h.filed.map _).nodup_iff.2 h.orderly.nodup_files
  present := h.status_iff hempty
  -- every child has been written
  children s hs x hx := by
    have hmem : x ∈ b.testHandles := h.orderly.rooted.written s hs x hx
    -- no test is open any more
    rw [testHandles, htests] at hmem
    obtain ⟨r, hr, hhandle⟩ := List.mem_map.1 hmem
    exact ⟨r, hr, hhandle, FileTree.read_of_status (h.status_result hr)⟩
  sources r hr ref href := by
    obtain ⟨a, ha, hsource⟩ := List.mem_map.1 (h.orderly.sourced.written r hr ref href)
    rw [← hsource]
    exact ⟨a.2, ha, FileTree.read_of_status (h.status_attachment ha)⟩

end Backend

/-! ### Draining -/

namespace Workspace

/-- Whatever producers push into a new registry, draining it into an empty results directory
succeeds. It makes the report that draining it in memory makes, and takes the same notes. The
directory then holds one file for each start of a test, one for each start of a suite or a test, and
one for each attachment that comes while a test is open, with its bytes; each was written once. The
files of tests show the tests of the report, and all children of scopes and all attachments of tests
have their files.

The texts of producers are lists of characters, so none holds a surrogate on its own, and times of
any length are written out: a drain that stops because a text cannot be encoded, or because a number
has more than `Decimal.maxDigits` digits, is not among these. -/
theorem published_drainAll {defaultContext : String} {r : Registry}
    (hr : Registry.create defaultContext = .ok r) {disk : FileTree} {root : Path} {b : Backend}
    (hb : Backend.inDirectory disk root = .ok b) (hempty : b.disk.IsEmptyDirectory root.steps)
    (isAfterAll : String → Bool) (synchronised : Bool) (uses : List Registry.Use) :
    ∃ w v, Runs (drainAll (Desk.machine isAfterAll synchronised))
        ⟨r.useAll uses, { report := b }⟩ () w
      ∧ Runs (drainAll (Desk.machine isAfterAll synchronised))
        ⟨r.useAll uses, { report := .inMemory {} }⟩ () v
      ∧ w.registry = v.registry
      ∧ w.world.report.finished = v.world.report.finished
      ∧ w.world.notes = v.world.notes
      ∧ w.world.report.Published isAfterAll
        ((r.contexts uses).map fun id => r.messagesOf id uses) root := by
  have hhoused := Backend.housed_inDirectory hb
  have hforget := Backend.forget_inDirectory hb
  -- the report by itself
  have hreport := runs_drainAll_useAll isAfterAll synchronised hr {} uses
  -- the report in memory with notes
  have hmemory : Related (fun (d : Desk) b => d.report = b)
      ⟨r.useAll uses, { report := .inMemory {} }⟩ ⟨r.useAll uses, .inMemory {}⟩ := ⟨rfl, rfl⟩
  rcases (Desk.callsFollow_backend isAfterAll synchronised).drainAll hmemory hreport with
    ⟨v, hv, hvreport⟩ | ⟨hfalse, -⟩
  swap
  · exact hfalse.elim
  -- the report in the directory with notes
  have hdirectory : Related (Desk.Mirrors b) ⟨r.useAll uses, { report := b }⟩
      ⟨r.useAll uses, { report := .inMemory {} }⟩ := ⟨rfl, ⟨.refl, hforget⟩, rfl⟩
  rcases (Desk.callsFollow_memory b isAfterAll synchronised).drainAll hdirectory hv with
    ⟨w, hw, hwv⟩ | ⟨hstuck, -⟩
  swap
  · exact absurd hstuck (hhoused.not_getsStuck hempty)
  have hsteps := Backend.Steps.housed hwv.world.report.steps hhoused
  have hsame : w.world.report.forget = v.world.report := hwv.world.report.forget
  have hreplayed : v.world.report = (Backend.inMemory {}).replayedAll isAfterAll
      (Registry.unread (r.contexts uses) fun id => r.messagesOf id uses) := hvreport.world
  refine ⟨w, v, hw, hv, hwv.registry, by rw [← hsame]; rfl, hwv.world.notes, ?_⟩
  have hidle : v.world.report.Idle := by
    rw [hreplayed]
    exact (Backend.idle_inMemory {}).replayedAll isAfterAll _
  have htallies : v.world.report.Tallies isAfterAll
      ((r.contexts uses).map fun id => r.messagesOf id uses) := by
    have hall := (Backend.tallies_inMemory isAfterAll {}).replayedAll
      (Registry.unread (r.contexts uses) fun id => r.messagesOf id uses)
    rwa [← hreplayed, List.nil_append, Registry.unread, List.map_map] at hall
  -- what is left of the report without its directory says all this
  rw [← hsame] at hidle htallies
  exact hsteps.published hempty hidle.tests
    ⟨htallies.tests, htallies.scopes, htallies.attachments⟩

/-- Two contexts, one with an attachment in a test and one with an attachment outside of any. -/
theorem published_drainAll_attachments :
    Registry.create "0-0" = .ok { defaultContext := "0-0" } ∧ ∃ b w,
      Backend.inDirectory {} ⟨"", ["out"]⟩ = .ok b
      ∧ Runs (drainAll (Desk.machine (fun _ => false) true))
        ⟨({ defaultContext := "0-0" } : Registry).useAll
          [.push none (.suiteStart "outer" true), .push none (.testStart "a" 1),
            .push (some "1-0") (.entry (.attachment ⟨"lost", [1], "text/plain", "utf-8"⟩)),
            .push none (.entry (.attachment ⟨"kept", [2], "text/plain", "utf-8"⟩))],
          { report := b }⟩ () w
      ∧ w.world.report.attachments.length = 1 := by
  have hr : Registry.create "0-0" = .ok { defaultContext := "0-0" } := rfl
  have hb : Backend.inDirectory {} ⟨"", ["out"]⟩ = .ok
      { destination := .directory ⟨"", ["out"]⟩
        disk := ({} : FileTree).fill ["out"] } := rfl
  obtain ⟨w, v, hw, -, -, -, -, hpublished⟩ := published_drainAll hr hb
    (FileTree.isEmptyDirectory_fill "out") (fun _ => false) true
    [.push none (.suiteStart "outer" true), .push none (.testStart "a" 1),
      .push (some "1-0") (.entry (.attachment ⟨"lost", [1], "text/plain", "utf-8"⟩)),
      .push none (.entry (.attachment ⟨"kept", [2], "text/plain", "utf-8"⟩))]
  refine ⟨hr, _, w, hb, hw, ?_⟩
  -- the first attachment has no test to go to
  have hlength := hpublished.tallies.attachments.length_eq
  rw [List.length_reverse] at hlength
  rw [← hlength]
  decide

end Workspace

end Chronicle
