import Chronicle.Yaml.Property

/-!
# Reading tokens

A node may turn out to be a key only when the colon after it is reached; the marks before it are
then put into the tokens at its place. So the lexer remembers, for each depth of flow collections,
the last node that may still become a key: it must be on the same line and at most 1024 characters
back. Outside of flow collections the indentation opens and closes blocks.
-/
namespace Chronicle.Yaml

/-- A node that may become a key. -/
structure KeyCandidate where
  /-- The number of tokens before it. -/
  number : Nat
  /-- Nothing else can stand there. -/
  isRequired : Bool
  index : Nat
  line : Nat
  column : Nat
  deriving DecidableEq, Repr, Inhabited

/-- What has been read of a text. -/
structure Lexer where
  cursor : Cursor
  tokens : Array Token := #[]
  /-- How many flow collections are open. -/
  depth : Nat := 0
  /-- The indentation of the innermost block, and of those around it. -/
  indent : Int := -1
  outer : List Int := []
  /-- Whether a key may start here. -/
  mayStartKey : Bool := true
  /-- The candidates by depth, the greatest depth first. -/
  candidates : List (Nat × KeyCandidate) := []
  deriving Repr, Inhabited

namespace Lexer

/-- The greatest distance between the start of a key and its colon. -/
def maxKeyLength : Nat := 1024

/-- Adds a token. -/
def push (l : Lexer) (t : Token) : Lexer :=
  { l with tokens := l.tokens.push t }

/-- Inserts a token after a number of tokens. -/
def insert (l : Lexer) (number : Nat) (t : Token) : Lexer :=
  { l with tokens := l.tokens.insertIdxIfInBounds number t }

/-- Adds a token that is a number of characters long. -/
def take (l : Lexer) (count : Nat) (t : Token) : Lexer :=
  { l.push t with cursor := l.cursor.skip count }

/-- Adds a token that ends at a place. -/
def takeTo (l : Lexer) (found : Token × Cursor) : Lexer :=
  { l.push found.1 with cursor := found.2 }

/-! ### Blocks -/

/-- Ends the blocks that are indented by more than a column, given the indentations around them. -/
def closeBlocks (column : Int) (l : Lexer) : List Int → Lexer
  | [] => l
  | o :: outer =>
    if column < l.indent then
      closeBlocks column { l.push .blockEnd with indent := o, outer := outer } outer
    else l

/-- Ends the blocks that are indented by more than a column. Flow collections ignore columns. -/
def closeTo (l : Lexer) (column : Int) : Lexer :=
  if l.depth = 0 then closeBlocks column l l.outer else l

/-- Whether a block starts at a column. -/
def opensBlock (l : Lexer) (column : Nat) : Bool :=
  l.depth = 0 && l.indent < (column : Int)

/-- The lexer inside a block that starts at a column. -/
def openBlock (l : Lexer) (column : Nat) : Lexer :=
  { l with indent := column, outer := l.indent :: l.outer }

/-! ### Candidates for keys -/

/-- Drops the candidates that can no longer become keys. -/
def dropStale (l : Lexer) : Except YamlFault Lexer :=
  let isStale (k : KeyCandidate) : Bool :=
    k.line != l.cursor.line || maxKeyLength < l.cursor.index - k.index
  if l.candidates.any fun k => isStale k.2 && k.2.isRequired then .error .malformed
  else .ok { l with candidates := l.candidates.filter fun k => !isStale k.2 }

/-- Drops the candidate at the present depth. -/
def dropCandidate (l : Lexer) : Except YamlFault Lexer :=
  match l.candidates.lookup l.depth with
  | none => .ok l
  | some k =>
    if k.isRequired then .error .malformed
    else .ok { l with candidates := l.candidates.filter (·.1 != l.depth) }

/-- Remembers what starts here as a candidate, if a key may start here. -/
def saveCandidate (l : Lexer) : Except YamlFault Lexer := do
  if !l.mayStartKey then return l
  let l ← l.dropCandidate
  let c := l.cursor
  let isRequired := l.depth = 0 && l.indent = (c.column : Int)
  let k : KeyCandidate := ⟨l.tokens.size, isRequired, c.index, c.line, c.column⟩
  return { l with candidates := (l.depth, k) :: l.candidates }

/-! ### Tokens -/

/-- The lexer before the next token: blanks, comments and line ends have been read. Outside of flow
collections a key may start on a new line. -/
def toToken (l : Lexer) : Nat → Lexer
  | 0 => l
  | bound + 1 =>
    let c := l.cursor.skipSpaces.skipComment
    if isLineEnd c.peek then
      toToken { l with cursor := c.lineEnd.2, mayStartKey := l.mayStartKey || l.depth = 0 } bound
    else { l with cursor := c }

/-- A word that ends all blocks. -/
def boundary (l : Lexer) : Except YamlFault Lexer := do
  let l ← (l.closeTo (-1)).dropCandidate
  return { l with mayStartKey := false }

/-- The start of a flow collection. -/
def startFlow (l : Lexer) (t : Token) : Except YamlFault Lexer := do
  let l ← l.saveCandidate
  return { l.take 1 t with depth := l.depth + 1, mayStartKey := true }

/-- The end of a flow collection. -/
def endFlow (l : Lexer) (t : Token) : Except YamlFault Lexer := do
  if l.depth = 0 then throw .malformed
  let l ← l.dropCandidate
  return { l.take 1 t with depth := l.depth - 1, mayStartKey := false }

/-- A comma. -/
def comma (l : Lexer) : Except YamlFault Lexer := do
  let l ← { l with mayStartKey := true }.dropCandidate
  return l.take 1 .comma

/-- A mark that may open a block here, which a key must be able to start. -/
def openAt (l : Lexer) (start : Token) : Except YamlFault Lexer := do
  if l.depth = 0 && !l.mayStartKey then throw .malformed
  let column := l.cursor.column
  return if l.opensBlock column then (l.push start).openBlock column else l

/-- A dash. -/
def dash (l : Lexer) : Except YamlFault Lexer := do
  let l ← l.openAt .blockListStart
  let l ← { l with mayStartKey := true }.dropCandidate
  return l.take 1 .dash

/-- A question mark, which announces a key. -/
def key (l : Lexer) : Except YamlFault Lexer := do
  let l ← l.openAt .blockMapStart
  let l ← { l with mayStartKey := l.depth = 0 }.dropCandidate
  return l.take 1 .key

/-- A colon, which makes the candidate a key. -/
def value (l : Lexer) : Except YamlFault Lexer := do
  match l.candidates.lookup l.depth with
  | some k =>
    let l := { l with
      candidates := l.candidates.filter (·.1 != l.depth)
      mayStartKey := false }
    let l := l.insert k.number .key
    let l :=
      if l.opensBlock k.column then (l.insert k.number .blockMapStart).openBlock k.column else l
    return l.take 1 .value
  | none =>
    let l ← l.openAt .blockMapStart
    return { l.take 1 .value with mayStartKey := l.depth = 0 }

/-- A word that may be a key or part of one. -/
def word (l : Lexer) (read : Lexer → Except YamlFault (Token × Cursor)) :
    Except YamlFault Lexer := do
  let l ← l.saveCandidate
  return { l.takeTo (← read l) with mayStartKey := false }

/-- A plain scalar, after which a key may start if a line ended there. -/
def plain (l : Lexer) : Except YamlFault Lexer := do
  let l ← l.saveCandidate
  let (text, c, crossed) := plainScalar (l.depth != 0) (l.indent + 1) l.cursor
  return { l.takeTo (.scalar text true, c) with mayStartKey := crossed }

/-- A block scalar. -/
def block (l : Lexer) : Except YamlFault Lexer := do
  let l ← { l with mayStartKey := true }.dropCandidate
  let (text, c) ← blockScalar l.indent l.cursor
  return l.takeTo (.scalar text false, c)

/-- Whether a plain scalar can start here. -/
def startsPlain (l : Lexer) : Bool :=
  let ch := l.cursor.peek
  if isGap ch then false
  else if !"-?:,[]\x7b\x7d#&*!|>'\"%@`".toList.contains ch then true
  else !isGap (l.cursor.ahead 1) && (ch == '-' || (l.depth = 0 && (ch == '?' || ch == ':')))

/-- The lexer after the next token, or nothing at the end of the text. -/
def step (l : Lexer) : Except YamlFault (Option Lexer) := do
  let l ← (l.toToken (l.cursor.rest.length + 1)).dropStale
  let l := l.closeTo l.cursor.column
  let c := l.cursor
  let isAlone := isGap (c.ahead 1)
  let isFirst := c.column = 0
  match c.peek with
  | '\x00' => return none
  | '[' => l.startFlow .listStart
  | ']' => l.endFlow .listEnd
  | '{' => l.startFlow .mapStart
  | '}' => l.endFlow .mapEnd
  | ',' => l.comma
  | '*' => l.word fun l => (anchorName l.cursor).map fun (name, c) => (.alias name, c)
  | '&' => l.word fun l => (anchorName l.cursor).map fun (name, c) => (.anchor name, c)
  | '!' => l.word fun l => tag l.cursor
  | '\'' | '"' =>
    l.word fun l => (quotedScalar l.cursor).map fun (text, c) => (.scalar text false, c)
  | ch =>
    if ch = '%' && isFirst then return (← l.boundary).takeTo (← directive c)
    else if isFirst && c.isAtMark '-' then return (← l.boundary).take 3 .documentStart
    else if isFirst && c.isAtMark '.' then return (← l.boundary).take 3 .documentEnd
    else if ch = '-' && isAlone then l.dash
    else if ch = '?' && (l.depth != 0 || isAlone) then l.key
    else if ch = ':' && (l.depth != 0 || isAlone) then l.value
    else if (ch = '|' || ch = '>') && l.depth = 0 then l.block
    else if l.startsPlain then l.plain
    else throw .malformed

/-- The tokens of a text, and what is wrong with what follows them. -/
def run (l : Lexer) : Nat → List Token × Option YamlFault
  | 0 => (l.tokens.toList, none)
  | bound + 1 =>
    match l.step with
    | .error f => (l.tokens.toList, some f)
    | .ok (some l) => run l bound
    | .ok none =>
      match (l.closeTo (-1)).dropCandidate with
      | .ok l => (l.tokens.toList, none)
      | .error f => (l.tokens.toList, some f)

end Lexer

end Chronicle.Yaml
