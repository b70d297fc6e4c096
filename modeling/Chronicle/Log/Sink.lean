import Chronicle.File.Tree
import Chronicle.Log.Message
import Chronicle.Octets.Utf8

/-!
# Where log messages go

To standard output or to the end of a file; messages below a level are passed over. `LogSink.open?`
prepares the place, and `LogSink.emit` writes to it.
-/
namespace Chronicle

/-- The kinds of place that log messages can go to. -/
inductive SinkKind where
  | nowhere | stdout | file
  deriving DecidableEq, Repr, Inhabited

instance : Vocabulary SinkKind where
  all := [.nowhere, .stdout, .file]
  word
    | .nowhere => "none"
    | .stdout => "stdout"
    | .file => "jsonl"
  find_word a := by cases a <;> rfl

/-- A place for log messages. -/
inductive LogTarget where
  | stdout
  | file (path : Path)
  deriving DecidableEq, Repr, Inhabited

/-- A place for log messages from a level on. -/
structure LogSink where
  target : LogTarget
  threshold : LogLevel
  deriving DecidableEq, Repr, Inhabited

/-- Why there is no place. -/
inductive SinkError where
  | unknownKind (word : String)
  | noPath
  | unknownLevel
  | file (e : FileError)
  deriving DecidableEq, Repr, Inhabited

/-- The text of an error. -/
def SinkError.message : SinkError → String
  | .unknownKind word => "unknown log sink kind: " ++ word
  | .noPath => "logging.path must be a non-empty string for the jsonl sink"
  | .unknownLevel => "min_level must be one of " ++ LogLevel.listing
  | .file e => e.message

/-- What a program has put out: its standard output, and the files. -/
structure Output where
  stdout : List Char := []
  disk : FileTree := {}
  deriving Repr, Inhabited

/-- Puts a line out. A file that was opened stays open, whatever happens to its path. -/
def LogTarget.put (target : LogTarget) (line : List Char) (out : Output) : Output :=
  match target with
  | .stdout => { out with stdout := out.stdout ++ line }
  | .file path =>
    match out.disk.append path.steps (Utf8.encode line) with
    | .ok disk => { out with disk := disk }
    | .error _ => out

namespace LogSink

/-- Prepares a file to be written at its end: its directory is made, and the file if necessary. -/
def prepare (path : Path) (disk : FileTree) : Except FileError FileTree :=
  match disk.makeDirectories path.parent.steps with
  | .error o => .error ⟨o, path.parent⟩
  | .ok disk =>
    match disk.append path.steps [] with
    | .error o => .error ⟨o, path⟩
    | .ok disk => .ok disk

/-- The place of a kind for messages from a level on, both given as words. -/
def open? (kind : String) (path : Option String) (level : String) (disk : FileTree) :
    Except SinkError (Option LogSink × FileTree) :=
  let withLevel (target : LogTarget) (disk : FileTree) :=
    match Vocabulary.ofWord? level with
    | some threshold => .ok (some ⟨target, threshold⟩, disk)
    | none => .error .unknownLevel
  match Vocabulary.ofWord? kind with
  | none => .error (.unknownKind kind)
  | some SinkKind.nowhere => .ok (none, disk)
  | some SinkKind.stdout => withLevel .stdout disk
  | some SinkKind.file =>
    match path with
    | none | some "" => .error .noPath
    | some path =>
      let path := Path.ofText path
      match prepare path disk with
      | .error e => .error (.file e)
      | .ok disk => withLevel (.file path) disk

/-- Writes a message, unless it is below the level of the place. -/
def emit (s : LogSink) (m : LogMessage) (out : Output) : Except LogError Output :=
  if m.level.rank < s.threshold.rank then .ok out
  else
    match m.line with
    | .ok line => .ok (s.target.put line out)
    | .error e => .error e

end LogSink

end Chronicle
