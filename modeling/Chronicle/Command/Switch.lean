import Chronicle.Log.Sink
import Chronicle.Text.Alphanumeric

/-!
# The words of a command line

A word is a switch, an argument, or neither. `Word.ofText` decides which, by the word alone: a
switch may be cut short as long as only one switch begins that way, and its value may follow an
equals sign. After two dashes every word is an argument.
-/
namespace Chronicle.Command

/-- The switches. -/
inductive Switch where
  | help | config | input | directory | log | logPath
  deriving DecidableEq, Repr, Inhabited

instance : Vocabulary Switch where
  all := [.help, .config, .input, .directory, .log, .logPath]
  word
    | .help => "--help"
    | .config => "--config"
    | .input => "--input"
    | .directory => "--results-dir"
    | .log => "--log"
    | .logPath => "--log-path"
  find_word a := by cases a <;> rfl

/-- How a message names a switch. -/
def Switch.title : Switch → String
  | .help => "-h/--help"
  | s => Vocabulary.word s

/-- The switches that begin in a way. -/
def Switch.beginning (text : List Char) : List Switch :=
  (Vocabulary.all : List Switch).filter fun s => text.isPrefixOf (Vocabulary.word s).toList

/-- Why a command line cannot be read. -/
inductive UsageError where
  /-- Several switches begin like the word. -/
  | ambiguous (word : String) (switches : List Switch)
  /-- A switch has no value. -/
  | noValue (s : Switch)
  /-- A switch that takes no value has one. -/
  | strayValue (s : Switch) (value : String)
  /-- There is no such kind of place for the log. -/
  | unknownSink (value : String)
  /-- Switches that have to be there are not. -/
  | missing (switches : List Switch)
  /-- Words are left over. -/
  | leftOver (words : List String)
  deriving DecidableEq, Repr, Inhabited

/-- The text of an error. -/
def UsageError.message : UsageError → String
  | .ambiguous word switches =>
    "ambiguous option: " ++ word ++ " could match " ++
      ", ".intercalate (switches.map Vocabulary.word)
  | .noValue s => "argument " ++ s.title ++ ": expected one argument"
  | .strayValue s value =>
    "argument " ++ s.title ++ ": ignored explicit argument " ++ Text.quote value
  | .unknownSink value =>
    "argument " ++ Switch.log.title ++ ": invalid choice: " ++ Text.quote value ++
      " (choose from " ++ ", ".intercalate ((Vocabulary.words SinkKind).map Text.quote) ++ ")"
  | .missing switches =>
    "the following arguments are required: " ++ ", ".intercalate (switches.map Switch.title)
  | .leftOver words => "unrecognized arguments: " ++ " ".intercalate words

/-- A word of a command line. -/
inductive Word where
  /-- Two dashes. -/
  | separator
  | argument (text : String)
  /-- A switch with the value that is attached to it. -/
  | switch (s : Switch) (attached : Option String)
  /-- A word that looks like a switch and is none. -/
  | unknown (text : String)
  deriving DecidableEq, Repr, Inhabited

namespace Word

/-- Whether what follows a dash makes the word a negative number. A line end may follow the
number. -/
def isNumber (cs : List Char) : Bool :=
  let cs := if cs.getLast? = some '\n' then cs.dropLast else cs
  match cs.dropWhile Text.isDecimalDigit with
  | [] => !cs.isEmpty
  | c :: rest => c == '.' && !rest.isEmpty && rest.all Text.isDecimalDigit

/-- The value that the rest of a short `-h` attaches. The letter may be repeated, and other letters
are read only after the help has been shown. -/
def attachedToHelp (rest : List Char) : Option String :=
  match rest.dropWhile (· == 'h') with
  | '=' :: value => some (String.ofList value)
  | '-' :: value => some (String.ofList ('-' :: value))
  | _ => none

/-- The word that begins with a dash and is no switch. -/
def dashed (cs : List Char) : Word :=
  let text := String.ofList ('-' :: cs)
  if isNumber cs || cs.contains ' ' then .argument text else .unknown text

/-- The word that a text is. -/
def ofText (text : String) : Except UsageError Word :=
  match text.toList with
  | ['-', '-'] => .ok .separator
  | '-' :: '-' :: cs =>
    let name := '-' :: '-' :: cs.takeWhile (· != '=')
    let attached := match cs.dropWhile (· != '=') with
      | _ :: value => some (String.ofList value)
      | [] => none
    match Vocabulary.ofWord? (String.ofList name) with
    | some s => .ok (.switch s attached)
    | none =>
      match Switch.beginning name with
      | [] => .ok (dashed ('-' :: cs))
      | [s] => .ok (.switch s attached)
      | switches => .error (.ambiguous text switches)
  | '-' :: 'h' :: rest => .ok (.switch .help (attachedToHelp rest))
  | ['-'] => .ok (.argument text)
  | '-' :: cs => .ok (dashed cs)
  | _ => .ok (.argument text)

/-- The words that texts are. -/
def ofTexts : List String → Except UsageError (List Word)
  | [] => .ok []
  | text :: rest => do
    let word ← ofText text
    if word = .separator then return word :: rest.map .argument
    return word :: (← ofTexts rest)

end Word

end Chronicle.Command
