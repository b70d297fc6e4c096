import Chronicle.Log.Sink
import Chronicle.Proofs.Command.Run
import Chronicle.Proofs.File.Append
import Chronicle.Proofs.Json.Controls
import Chronicle.Proofs.Json.Reading
import Chronicle.Proofs.Time.Timestamp
import Mathlib.Data.List.Forall2

/-!
# One line for each message

A log file has one line for each message that is not below the level of the log, after whatever was
in it before: `LogSink.framed_of_open?`. The line is read back as the message, and nothing inside it
ends a line, since all control characters are escaped however deep the fields are nested.
-/
namespace Chronicle

namespace LogMessage

/-- A message that can be written: the calendar has its moment in universal time, and its fields
have a text from which they can be read back. -/
structure Valid (m : LogMessage) : Prop where
  inCalendar : m.timestamp.utc?.isSome
  readable : Json.Readable (.obj m.fields)

/-- A line is read back as a message: its level, its words, its moment and its fields. -/
def ReadsAs (m : LogMessage) (line : List Char) : Prop :=
  ∃ u stamp, m.timestamp.utc? = some u ∧ Timestamp.ofText? stamp = some ⟨u, 0⟩
    ∧ Json.parse line = .ok (.obj [("level", .str (Vocabulary.word m.level)),
        ("message", .str m.text), ("timestamp", .str (String.ofList stamp)),
        ("fields", .obj m.fields)])

variable {m : LogMessage}

/-- A moment in universal time that the calendar has. -/
private theorem utc?_bounds {t : Timestamp} {u : Micros} (h : t.utc? = some u) :
    0 ≤ u ∧ u < Timestamp.calendarEnd := by
  simp only [Timestamp.utc?] at h
  split at h
  next hbounds => cases h; exact hbounds
  next => cases h

/-- The line of a message is read back as the message. -/
private theorem Valid.exists_line (hm : m.Valid) :
    ∃ line, m.line = .ok (line ++ ['\n']) ∧ m.ReadsAs line ∧ Text.Unbroken line := by
  obtain ⟨u, hu⟩ := Option.isSome_iff_exists.1 hm.inCalendar
  obtain ⟨hlow, hhigh⟩ := utc?_bounds hu
  -- the keys of the record are distinct, and its texts can be read like all texts
  have hrecord : Json.Readable (.obj [("level", .str (Vocabulary.word m.level)),
      ("message", .str m.text), ("timestamp", .str (String.ofList (Timestamp.utcText u))),
      ("fields", .obj m.fields)]) :=
    ⟨by simp, trivial, trivial, trivial, hm.readable, trivial⟩
  refine ⟨_, ?_, ⟨u, Timestamp.utcText u, hu, Timestamp.ofText?_utcText hlow hhigh,
    Json.parse_print hrecord⟩, (Json.noControls_print _ hrecord).unbroken⟩
  simp only [line, toJson?, hu]
  rfl

end LogMessage

/-! ### Writing messages -/

/-- What a file contains after some messages have been written to a log from a level on: what it
contained before, and a line for each message that is not below the level, in order. -/
def Framed (threshold : LogLevel) (messages : List LogMessage) (before after : Bytes) : Prop :=
  ∃ lines, after = before ++ Utf8.encode (lines.flatMap (· ++ ['\n']))
    ∧ List.Forall₂ LogMessage.ReadsAs
        (messages.filter fun m => threshold.rank ≤ m.level.rank) lines
    ∧ ∀ line ∈ lines, Text.Unbroken line

variable {threshold : LogLevel} {messages : List LogMessage} {m : LogMessage}
  {before between after : Bytes}

theorem Framed.nil (content : Bytes) : Framed threshold [] content content :=
  ⟨[], (List.append_nil content).symm, .nil, nofun⟩

theorem Framed.trans {more : List LogMessage} (h : Framed threshold messages before between)
    (h' : Framed threshold more between after) :
    Framed threshold (messages ++ more) before after := by
  obtain ⟨lines, rfl, hreads, hlines⟩ := h
  obtain ⟨lines', rfl, hreads', hlines'⟩ := h'
  refine ⟨lines ++ lines', ?_, ?_, ?_⟩
  · simp only [Utf8.encode, List.flatMap_append, List.append_assoc]
  · rw [List.filter_append]
    exact List.rel_append hreads hreads'
  · exact List.forall_mem_append.2 ⟨hlines, hlines'⟩

namespace LogSink

variable {sink : LogSink} {path : Path} {out : Output} {old : Bytes}

/-- A message adds its line, or nothing if it is below the level. -/
private theorem exists_emit (htarget : sink.target = .file path)
    (hfile : out.disk.status path.steps = .ok (.file old)) (hm : m.Valid) :
    ∃ out' content, sink.emit m out = .ok out' ∧ out'.stdout = out.stdout
      ∧ out'.disk.status path.steps = .ok (.file content)
      ∧ Framed sink.threshold [m] old content := by
  -- a message below the threshold adds no line
  by_cases hlevel : m.level.rank < sink.threshold.rank
  · have hnone : [m].filter (fun m => sink.threshold.rank ≤ m.level.rank) = [] := by
      simp [hlevel]
    refine ⟨out, old, if_pos hlevel, rfl, hfile, [], (List.append_nil old).symm, ?_, nofun⟩
    rw [hnone]
    exact .nil
  · have hone : [m].filter (fun m => sink.threshold.rank ≤ m.level.rank) = [m] := by
      simp [Nat.not_lt.1 hlevel]
    obtain ⟨line, hline, hreads, hunbroken⟩ := hm.exists_line
    -- the line is appended to the file with a line feed behind it
    obtain ⟨disk, happend, hdisk⟩ :=
      FileTree.exists_append hfile (Utf8.encode (line ++ ['\n']))
    refine ⟨{ out with disk := disk }, _, ?_, rfl, hdisk, [line], ?_, ?_, ?_⟩
    · simp only [emit, if_neg hlevel, hline, htarget, LogTarget.put, happend]
    · simp
    · rw [hone]
      exact .cons hreads .nil
    · exact List.forall_mem_singleton.2 hunbroken

/-- Messages add their lines one after another. -/
private theorem exists_emits (htarget : sink.target = .file path)
    (hfile : out.disk.status path.steps = .ok (.file old)) (hvalid : ∀ m ∈ messages, m.Valid) :
    ∃ out' content, messages.foldlM (fun out m => sink.emit m out) out = .ok out'
      ∧ out'.stdout = out.stdout ∧ out'.disk.status path.steps = .ok (.file content)
      ∧ Framed sink.threshold messages old content := by
  induction messages generalizing out old with
  | nil => exact ⟨out, old, rfl, rfl, hfile, .nil old⟩
  | cons m messages ih =>
    obtain ⟨hm, hvalid⟩ := List.forall_mem_cons.1 hvalid
    obtain ⟨out₁, content₁, hemit, hstdout₁, hfile₁, hframed₁⟩ := exists_emit htarget hfile hm
    obtain ⟨out₂, content₂, hemits, hstdout₂, hfile₂, hframed₂⟩ := ih hfile₁ hvalid
    refine ⟨out₂, content₂, ?_, hstdout₂.trans hstdout₁, hfile₂, hframed₁.trans hframed₂⟩
    rw [List.foldlM_cons, hemit]
    exact hemits

/-! ### Opening a file -/

/-- A file that has been prepared can be reached, and contains what it contained before. -/
private theorem status_prepare {disk disk' : FileTree} (h : prepare path disk = .ok disk') :
    disk'.status path.steps = .ok (.file (disk.contentAt path.steps)) := by
  have hkept := (Command.Bench.keepsFiles_prepare h).contentAt_eq path.steps
  simp only [prepare] at h
  split at h
  · cases h
  split at h
  · cases h
  -- appending nothing leaves the content that was there, or none
  next happend =>
    cases h
    obtain ⟨content, hstatus⟩ := FileTree.status_edit happend
    rw [FileTree.contentAt_of_find? (FileTree.find?_of_status hstatus)] at hkept
    rw [hstatus, hkept]

private theorem prepare_of_open? {path : String} {disk disk' : FileTree}
    (h : open? "jsonl" (some path) (Vocabulary.word threshold) disk = .ok (some sink, disk')) :
    prepare (Path.ofText path) disk = .ok disk' ∧ sink = ⟨.file (Path.ofText path), threshold⟩ := by
  have hkind : (Vocabulary.ofWord? "jsonl" : Option SinkKind) = some .file :=
    Vocabulary.ofWord?_word SinkKind.file
  simp only [open?, hkind, Vocabulary.ofWord?_word] at h
  split at h
  · cases h
  · cases h
  -- the threshold was a word for a level, so it is the level
  next heq =>
    cases heq
    split at h
    · cases h
    next hprepare => cases h; exact ⟨hprepare, rfl⟩

/-- A log in a file, opened with a level: the messages from that level on are added to the file, one
line for each. -/
theorem framed_of_open? {path : String} {disk disk' : FileTree}
    (hopen : open? "jsonl" (some path) (Vocabulary.word threshold) disk = .ok (some sink, disk'))
    (hvalid : ∀ m ∈ messages, m.Valid) (stdout : List Char) :
    ∃ out content, messages.foldlM (fun out m => sink.emit m out) ⟨stdout, disk'⟩ = .ok out
      ∧ out.stdout = stdout
      ∧ out.disk.read (Path.ofText path).steps = .ok content
      ∧ Framed threshold messages (disk.contentAt (Path.ofText path).steps) content := by
  obtain ⟨hprepare, rfl⟩ := prepare_of_open? hopen
  have hfile := status_prepare hprepare
  obtain ⟨out, content, hemits, hstdout, hcontent, hframed⟩ :=
    @exists_emits messages ⟨.file (Path.ofText path), threshold⟩ _ ⟨stdout, disk'⟩ _ rfl hfile
      hvalid
  exact ⟨out, content, hemits, hstdout, FileTree.read_of_status hcontent, hframed⟩

/-- A message below the level, and one with a line feed, a quotation mark and a control character
in its words and in its nested fields, added to a log with a line in it. -/
theorem framed_of_open?_of_control_characters :
    let old := Utf8.encode ['{', '}', '\n']
    let disk : FileTree := ⟨[(["run.jsonl"], .file old)]⟩
    let messages : List LogMessage := [⟨.debug, "skipped", ⟨0, 0⟩, []⟩,
      ⟨.error, "line\none \"two\"", ⟨dayLength, 7200000000⟩,
        [("at", .arr [.str "\r\x07", .int (-1)]), ("more", .obj [("a\nb", .null)])]⟩]
    open? "jsonl" (some "run.jsonl") (Vocabulary.word LogLevel.info) disk
        = .ok (some ⟨.file (Path.ofText "run.jsonl"), .info⟩, disk)
      ∧ (∀ m ∈ messages, m.Valid)
      ∧ ∃ out content,
        messages.foldlM (fun out m => emit ⟨.file (Path.ofText "run.jsonl"), .info⟩ m out)
            ⟨[], disk⟩ = .ok out
          ∧ out.stdout = []
          ∧ out.disk.read (Path.ofText "run.jsonl").steps = .ok content
          ∧ Framed .info messages (disk.contentAt (Path.ofText "run.jsonl").steps) content := by
  intro old disk messages
  have hopen : open? "jsonl" (some "run.jsonl") (Vocabulary.word LogLevel.info) disk
      = .ok (some ⟨.file (Path.ofText "run.jsonl"), .info⟩, disk) := by rfl
  -- both messages are valid, although there are control characters in them
  have hvalid : ∀ m ∈ messages, m.Valid := by
    refine List.forall_mem_cons.2 ⟨⟨rfl, ?_⟩, List.forall_mem_singleton.2 ⟨rfl, ?_⟩⟩
    · exact ⟨.nil, trivial⟩
    · have hshort : Json.IsShort (-1) := by
        simp [Json.IsShort, Decimal.digits, Decimal.maxDigits]
      exact ⟨by decide, ⟨trivial, hshort, trivial⟩, ⟨by decide, trivial, trivial⟩, trivial⟩
  exact ⟨hopen, hvalid, framed_of_open? hopen hvalid []⟩

end LogSink

end Chronicle
