import Chronicle.Pattern.Fault
import Chronicle.Pattern.Flag
import Chronicle.Text.Names

/-!
# Reading the text of a pattern

The text of a pattern is read token by token: a token is a character, or a backslash with the
character after it. A backslash that ends the text is noticed as soon as the token before it has
been taken.
-/
namespace Chronicle.Pattern

/-- A token of a pattern. -/
abbrev Token := List Char

/-- How far a pattern has been read, and what has been learnt. -/
structure Cursor where
  rest : List Char
  /-- The characters that can be given by a name. -/
  characters : Text.CharacterNames
  position : Nat := 0
  /-- The flags of the whole pattern. -/
  flags : Flags := []
  /-- The widths of the groups, the first group first; an open group has none yet. -/
  groups : List (Option Width) := []
  names : List (String × Nat) := []
  /-- How many groups there were before the outermost part that looks back. -/
  look : Option Nat := none
  /-- The groups that parts of the pattern depend on, and where. -/
  conditions : List (Nat × Nat) := []

/-- A step of reading. -/
abbrev Reading := StateT Cursor (Except PatternFault)

namespace Reading

/-- Stops at a position. -/
def failAt {α : Type} (position : Nat) (what : PatternFlaw) : Reading α :=
  throw (.flaw what position)

/-- Stops a number of characters before the next token. -/
def fail {α : Type} (what : PatternFlaw) (back : Nat) : Reading α := do
  failAt ((← get).position - back) what

/-- The position of the next token. -/
def position : Reading Nat := do
  return (← get).position

/-- The token at the start of a text. -/
def tokenOf : List Char → Option Token
  | [] => none
  | '\\' :: c :: _ => some ['\\', c]
  | c :: _ => some [c]

/-- The next token, if there is one. -/
def peek : Reading (Option Token) := do
  return tokenOf (← get).rest

/-- Goes on by a number of characters. -/
def skip (count : Nat) : Reading Unit := do
  modify fun c => { c with rest := c.rest.drop count, position := c.position + count }
  let c ← get
  if c.rest = ['\\'] then failAt c.position .endsInBackslash

/-- Takes the next token. -/
def next : Reading (Option Token) := do
  let token ← peek
  skip (token.elim 0 List.length)
  return token

/-- Takes the next token if it is a certain character. -/
def accept (c : Char) : Reading Bool := do
  if (← peek) = some [c] then
    skip 1
    return true
  else return false

/-- Takes at most a number of characters of a class. -/
def takeUpTo (count : Nat) (p : Char → Bool) : Reading (List Char) := do
  let found := ((← get).rest.take count).takeWhile p
  skip found.length
  return found

/-- Takes all characters of a class that follow. -/
def takeAll (p : Char → Bool) : Reading (List Char) := do
  takeUpTo (← get).rest.length p

/-- Takes a name up to a character that ends it. The bound exceeds the number of tokens left. -/
def nameUntil (terminator : Char) (what : String) : Nat → List Char → Reading (List Char)
  | 0, _ => fail (.missing what) 0
  | bound + 1, name => do
    match ← next with
    | none =>
      if name.isEmpty then fail (.missing what) 0
      else fail (.missing (String.ofList [terminator] ++ ", unterminated name")) name.length
    | some token =>
      if token = [terminator] then
        if name.isEmpty then fail (.missing what) 1 else return name
      else nameUntil terminator what bound (name ++ token)

/-- Takes a name up to a character that ends it. -/
def name (terminator : Char) (what : String) : Reading (List Char) := do
  nameUntil terminator what ((← get).rest.length + 1) []

/-! ### Groups -/

/-- The number that the next group will have. -/
def nextGroup : Reading Nat := do
  return (← get).groups.length + 1

/-- Whether a group has been read to its end. -/
def isClosed (number : Nat) : Reading Bool := do
  return ((← get).groups[number - 1]?.join).isSome && number != 0

/-- The width of a group. -/
def groupWidth (c : Cursor) (number : Nat) : Width :=
  (c.groups[number - 1]?.join).getD ⟨0, 0⟩

/-- Opens a group, which may have a name. -/
def openGroup (name : Option String) : Reading Nat := do
  let number ← nextGroup
  match name with
  | none => pure ()
  | some name =>
    match (← get).names.lookup name with
    | some earlier => fail (.nameTaken name number earlier) (name.length + 1)
    | none => modify fun c => { c with names := (name, number) :: c.names }
  modify fun c => { c with groups := c.groups ++ [none] }
  return number

/-- Closes a group. -/
def closeGroup (number : Nat) (body : Node) : Reading Unit :=
  modify fun c => { c with groups := c.groups.set (number - 1) (some (body.width (groupWidth c))) }

/-- Makes sure that a part that looks back does not depend on groups of its own. -/
def checkLook (number : Nat) : Reading Unit := do
  match (← get).look with
  | none => pure ()
  | some count =>
    if !(← isClosed number) then fail .openGroup 0
    if count < number then fail .groupInSameLook 0

end Reading

end Chronicle.Pattern
