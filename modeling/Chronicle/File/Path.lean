import Chronicle.Text.Quoted
import Chronicle.Text.Split

/-!
# Paths

A path is a chain of names, from the root when it has an anchor and else from the working directory.
Empty names and names that stay where they are leave no trace; a name that goes up does.
-/
namespace Chronicle

/-- A path. The anchor is empty, one slash, or two. -/
structure Path where
  anchor : String := ""
  names : List String := []
  deriving DecidableEq, Repr, Inhabited

namespace Path

/-- The anchor that a number of leading slashes makes: exactly two stay two. -/
def anchorOf (slashes : Nat) : String :=
  if slashes = 0 then "" else if slashes = 2 then "//" else "/"

/-- The path that a text names. -/
def ofText (text : String) : Path :=
  let cs := text.toList
  let parts := (Text.split '/' cs).filter fun part => !part.isEmpty && part != ['.']
  ⟨anchorOf (cs.takeWhile (· == '/')).length, parts.map String.ofList⟩

/-- The text of a path. -/
def text (p : Path) : String :=
  if p.anchor = "" && p.names.isEmpty then "."
  else p.anchor ++ String.ofList (Text.join ['/'] (p.names.map String.toList))

/-- The path of a name below this one. -/
def child (p : Path) (name : String) : Path :=
  { p with names := p.names ++ [name] }

/-- The path that contains this one. -/
def parent (p : Path) : Path :=
  { p with names := p.names.dropLast }

/-- The names on the way once one more name has been followed. From the root nothing goes up, and
what goes up from the working directory stays. -/
def step (done : List String) (name : String) : List String :=
  if name = ".." then
    match done.getLast? with
    | none | some ".." => done ++ [name]
    | some "/" => done
    | some _ => done.dropLast
  else done ++ [name]

/-- Where a path starts. -/
def start (p : Path) : List String :=
  if p.anchor = "" then [] else ["/"]

/-- The names on the way to a path once names that go up have been followed. -/
def steps (p : Path) : List String :=
  p.names.foldl step p.start

/-- A name without its last suffix. A leading point starts no suffix, and a trailing one ends
none. -/
def stem (name : List Char) : List Char :=
  let suffix := name.reverse.takeWhile (· != '.')
  let before := (name.reverse.drop (suffix.length + 1)).reverse
  if suffix.isEmpty || before.isEmpty then name else before

/-- The names of a path, the last one without its suffix; none when there is no last name. -/
def stemNames? (p : Path) : Option (List String) :=
  match p.names.getLast? with
  | none => none
  | some name => some (p.names.dropLast ++ [String.ofList (stem name.toList)])

end Path

end Chronicle
