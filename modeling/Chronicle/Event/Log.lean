import Chronicle.Event.Reader
import Chronicle.File.Path
import Chronicle.Json.Parser
import Chronicle.Octets.Utf8
import Chronicle.Text.Lines

/-!
# Event logs

A file with an event on each line, blank lines apart. Reading stops at the first line that fails;
what goes wrong with the text of a line is reported with the path and the number of the line.

Octets that are no text are noticed only when they are read, block by block, so the lines before
that block have been delivered by then.
-/
namespace Chronicle

/-- Why an event log cannot be read any further. -/
inductive EventLogError where
  /-- A line is no JSON text. -/
  | notJson (path : Path) (line : Nat)
  /-- A line is no event. -/
  | rejected (path : Path) (line : Nat) (e : EventError)
  /-- An event could not even be tried. -/
  | untried (e : EventError)
  /-- An integer has this many digits, which are too many. -/
  | longInteger (digits : Nat)
  /-- The octets are no text. -/
  | notText (fault : OctetFault)
  deriving DecidableEq, Repr, Inhabited

namespace EventLogError

/-- The place of an error. -/
def place (path : Path) (line : Nat) : String :=
  path.text ++ ":" ++ String.ofList (Decimal.digits line) ++ ": "

/-- The text of an error. -/
def message : EventLogError → String
  | .notJson path line => place path line ++ "not valid JSON"
  | .rejected path line e => place path line ++ e.message
  | .untried e => e.message
  | .longInteger digits => Decimal.tooLong digits
  | .notText fault => fault.message "utf-8"

end EventLogError

namespace EventLog

/-- Reads a line; a blank one holds no event. -/
def readLine (path : Path) (number : Nat) (line : List Char) :
    Except EventLogError (Option Event) :=
  let text := Text.trim Text.isBlank line
  if text.isEmpty then .ok none
  else
    match Json.parse text with
    | .error .malformed => .error (.notJson path number)
    | .error (.longInteger digits) => .error (.longInteger digits)
    | .ok v =>
      match Event.ofJson v with
      | .ok e => .ok (some e)
      | .error e =>
        if e.isRejection then .error (.rejected path number e) else .error (.untried e)

/-- The events of lines, the first one having a number, up to the first line that fails. -/
def readLines (path : Path) (number : Nat) : List (List Char) → List Event × Option EventLogError
  | [] => ([], none)
  | line :: rest =>
    match readLine path number line with
    | .error e => ([], some e)
    | .ok found =>
      let (events, e) := readLines path (number + 1) rest
      (found.toList ++ events, e)

/-- Hands on the events of lines, the first one having a number, each as soon as its line has been
read. A line that fails ends it. -/
def feedLines {α : Type} (path : Path) (take : α → Event → α) (number : Nat) (a : α) :
    List (List Char) → Except EventLogError α
  | [] => .ok a
  | line :: rest =>
    match readLine path number line with
    | .error e => .error e
    | .ok none => feedLines path take (number + 1) a rest
    | .ok (some e) => feedLines path take (number + 1) (take a e) rest

/-- How many octets are read at a time. -/
def blockSize : Nat := 8192

/-- The lines of a file that are delivered, and what is wrong with the octets after them. -/
def delivered (content : Bytes) : List (List Char) × Option OctetFault :=
  match Utf8.decode content with
  | .ok text => (Text.lines text, none)
  | .error _ =>
    match Utf8.decodeBlocks [] (Utf8.blocks blockSize content (content.length + 1)) with
    | (text, none) => (Text.lines text, none)
    | (text, some fault) => (Text.lines (Text.wholeLines text), some fault)

/-- The events of a file, up to the first thing that goes wrong. -/
def read (path : Path) (content : Bytes) : List Event × Option EventLogError :=
  let (lines, fault) := delivered content
  let (events, e) := readLines path 1 lines
  (events, e <|> fault.map .notText)

/-- Hands on the events of a file, each as soon as its line has been read. -/
def feed {α : Type} (path : Path) (take : α → Event → α) (a : α) (content : Bytes) :
    Except EventLogError α :=
  let (lines, fault) := delivered content
  match feedLines path take 1 a lines, fault with
  | .error e, _ => .error e
  | .ok _, some fault => .error (.notText fault)
  | .ok a, none => .ok a

end EventLog

end Chronicle
