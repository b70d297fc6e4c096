import Chronicle.Text.Hex
import Chronicle.Yaml.Cursor
import Chronicle.Yaml.Fault

/-!
# Scalars

The three ways to write a scalar: between quotation marks, plain, and as a block of lines. In the
first two a line end becomes a space, and further line ends that follow it are kept. Each reader
returns the text of a scalar and the place after it; the bounds exceed the number of characters
left.
-/
namespace Chronicle.Yaml

/-- What a line end and the further ones after it become: a lone line feed is a space, and only the
further ones are kept of several. -/
def folded (first further : List Char) : List Char :=
  if first != ['\n'] then first ++ further else if further.isEmpty then [' '] else further

/-! ### Quoted scalars -/

/-- The line ends that follow inside a quoted scalar, blanks between them being dropped. -/
def quotedLineEnds (c : Cursor) : Nat → Except YamlFault (List Char × Cursor)
  | 0 => .error .malformed
  | bound + 1 =>
    if c.isAtDocumentMark then .error .malformed
    else
      let c := c.skipWhile fun ch => ch == ' ' || ch == '\t'
      if isLineEnd c.peek then do
        let (found, c) := c.lineEnd
        let (more, c) ← quotedLineEnds c bound
        return (found ++ more, c)
      else .ok ([], c)

/-- The character that a letter after a backslash stands for. -/
def escapedChar? : Char → Option Char
  | '0' => some '\x00'
  | 'a' => some '\x07'
  | 'b' => some '\x08'
  | 't' | '\t' => some '\t'
  | 'n' => some '\n'
  | 'v' => some '\x0b'
  | 'f' => some '\x0c'
  | 'r' => some '\r'
  | 'e' => some '\x1b'
  | ' ' => some ' '
  | '"' => some '"'
  | '\\' => some '\\'
  | '/' => some '/'
  | 'N' => some '\x85'
  | '_' => some '\xA0'
  | 'L' => some '\u2028'
  | 'P' => some '\u2029'
  | _ => none

/-- The number of hexadecimal digits after a letter that announces a character code. -/
def codeLength? : Char → Option Nat
  | 'x' => some 2
  | 'u' => some 4
  | 'U' => some 8
  | _ => none

/-- The character of a code. -/
def charOfCode (code : Nat) : Except YamlFault Char :=
  if 0x10FFFF < code then .error (.noSuchCode code)
  else if 0xD800 ≤ code ∧ code < 0xE000 then .ok '\uFFFD'
  else .ok (Char.ofNat code)

/-- What an escape stands for, from the character after the backslash on. -/
def quotedEscape (c : Cursor) : Except YamlFault (List Char × Cursor) :=
  let ch := c.peek
  match escapedChar? ch, codeLength? ch with
  | some e, _ => .ok ([e], c.next)
  | none, some count =>
    let digits := c.next.rest.take count
    match Text.ofHexDigits? digits with
    | some code => do
      if digits.length < count then throw .malformed
      return ([← charOfCode code], c.next.skip count)
    | none => .error .malformed
  | none, none =>
    if isLineEnd ch then quotedLineEnds c.lineEnd.2 (c.rest.length + 1) else .error .malformed

/-- The blanks and line ends that follow inside a quoted scalar. -/
def quotedBlanks (c : Cursor) : Except YamlFault (List Char × Cursor) :=
  let (blanks, c) := c.span fun ch => ch == ' ' || ch == '\t'
  if c.peek = endMark then .error .malformed
  else if isLineEnd c.peek then do
    let (first, c) := c.lineEnd
    let (further, c) ← quotedLineEnds c (c.rest.length + 1)
    return (folded first further, c)
  else .ok (blanks, c)

/-- The rest of a quoted scalar, after the text read so far. -/
def quotedRest (mark : Char) (text : List Char) (c : Cursor) :
    Nat → Except YamlFault (List Char × Cursor)
  | 0 => .error .malformed
  | bound + 1 => do
    let ch := c.peek
    if ch = endMark then throw .malformed
    else if ch = mark then
      if mark = '\'' && c.ahead 1 = '\'' then quotedRest mark (text ++ ['\'']) (c.skip 2) bound
      else return (text, c.next)
    else if isGap ch then
      let (blanks, c) ← quotedBlanks c
      quotedRest mark (text ++ blanks) c bound
    else if mark = '"' && ch = '\\' then
      let (escaped, c) ← quotedEscape c.next
      quotedRest mark (text ++ escaped) c bound
    else
      let (run, c) := c.span fun d => !isGap d && d != mark && !(mark == '"' && d == '\\')
      quotedRest mark (text ++ run) c bound

/-- A scalar between quotation marks, the next character being the first of them. -/
def quotedScalar (c : Cursor) : Except YamlFault (List Char × Cursor) :=
  quotedRest c.peek [] c.next (c.rest.length + 1)

/-! ### Plain scalars -/

/-- The characters that belong to a flow collection. -/
def isFlowChar (c : Char) : Bool :=
  c == ',' || c == '[' || c == ']' || c == '{' || c == '}'

/-- The part of a plain scalar at the start of a text, without blanks in it. -/
def plainRun (inFlow : Bool) : List Char → List Char
  | [] => []
  | ch :: rest =>
    let after := rest.headD endMark
    if isGap ch || (ch == ':' && (isGap after || (inFlow && isFlowChar after)))
        || (inFlow && (isFlowChar ch || ch == '?')) then []
    else ch :: plainRun inFlow rest

/-- The further line ends that follow in a plain scalar, or nothing if the document ends there. -/
def plainLineEnds (c : Cursor) : Nat → Option (List Char) × Cursor
  | 0 => (some [], c)
  | bound + 1 =>
    if c.isAtDocumentMark then (none, c)
    else
      let c := c.skipSpaces
      if isLineEnd c.peek then
        let (found, c) := c.lineEnd
        match plainLineEnds c bound with
        | (some more, c) => (some (found ++ more), c)
        | (none, c) => (none, c)
      else (some [], c)

/-- The blanks that follow a part of a plain scalar, the place after them, and whether a line ended
there. -/
def plainBlanks (c : Cursor) : List Char × Cursor × Bool :=
  let (blanks, c) := c.span (· == ' ')
  if isLineEnd c.peek then
    let (first, c) := c.lineEnd
    match plainLineEnds c (c.rest.length + 1) with
    | (some further, c) => (folded first further, c, true)
    | (none, c) => ([], c, true)
  else (blanks, c, false)

/-- The rest of a plain scalar that is indented by at least `indent` unless it is part of a flow
collection, after the text read so far and the blanks after that. The last result says whether a
line ended after the scalar. -/
def plainRest (inFlow : Bool) (indent : Int) (text blanks : List Char) (c : Cursor)
    (crossed : Bool) : Nat → List Char × Cursor × Bool
  | 0 => (text, c, crossed)
  | bound + 1 =>
    let run := plainRun inFlow c.rest
    if c.peek = '#' || run.isEmpty then (text, c, crossed)
    else
      let text := text ++ blanks ++ run
      let (blanks, c, crossed) := plainBlanks (c.skip run.length)
      if blanks.isEmpty || c.peek = '#' || (!inFlow && (c.column : Int) < indent) then
        (text, c, crossed)
      else plainRest inFlow indent text blanks c crossed bound

/-- A plain scalar. -/
def plainScalar (inFlow : Bool) (indent : Int) (c : Cursor) : List Char × Cursor × Bool :=
  plainRest inFlow indent [] [] c false (c.rest.length + 1)

/-! ### Block scalars -/

/-- What happens to the line ends at the end of a block. -/
inductive Chomping where
  /-- All but the first are dropped. -/
  | clip
  /-- All are dropped. -/
  | strip
  /-- All are kept. -/
  | keep
  deriving DecidableEq, Repr, Inhabited

/-- What a sign says about the end of a block. -/
def chompingOf? : Char → Option Chomping
  | '+' => some .keep
  | '-' => some .strip
  | _ => none

/-- The indentation that a digit gives. -/
def incrementOf? (c : Char) : Option Nat :=
  if c.isDigit then some (c.toNat - 48) else none

/-- What follows the mark of a block: a sign and a digit, each of which may be missing. -/
def blockIndicators (c : Cursor) : Except YamlFault (Chomping × Option Nat × Cursor) := do
  let (sign, increment, c) := match chompingOf? c.peek, incrementOf? c.peek with
    | some sign, _ =>
      match incrementOf? c.next.peek with
      | some n => (sign, some n, c.skip 2)
      | none => (sign, none, c.next)
    | none, some n =>
      match chompingOf? c.next.peek with
      | some sign => (sign, some n, c.skip 2)
      | none => (.clip, some n, c.next)
    | none, none => (.clip, none, c)
  if increment = some 0 || !isSpaceOrStop c.peek then throw .malformed
  return (sign, increment, c)

/-- The place after the rest of a line, where only a comment may stand. -/
def ignoredLine (c : Cursor) : Except YamlFault Cursor :=
  let c := c.skipSpaces.skipComment
  if isStop c.peek then .ok c.lineEnd.2 else .error .malformed

/-- The empty lines at the start of a block, and the greatest indentation found there. -/
def blockStart (c : Cursor) (widest : Nat) : Nat → List Char × Nat × Cursor
  | 0 => ([], widest, c)
  | bound + 1 =>
    let c := c.skipSpaces
    let widest := max widest c.column
    if isLineEnd c.peek then
      let (found, c) := c.lineEnd
      let (more, widest, c) := blockStart c widest bound
      (found ++ more, widest, c)
    else ([], widest, c)

/-- The place after the indentation that follows. -/
def skipIndent (indent : Nat) (c : Cursor) : Cursor :=
  c.skip ((c.rest.take (indent - c.column)).takeWhile (· == ' ')).length

/-- The empty lines inside a block, and the indentation after them. -/
def blockLineEnds (indent : Nat) (c : Cursor) : Nat → List Char × Cursor
  | 0 => ([], c)
  | bound + 1 =>
    let c := skipIndent indent c
    if isLineEnd c.peek then
      let (found, c) := c.lineEnd
      let (more, c) := blockLineEnds indent c bound
      (found ++ more, c)
    else ([], c)

/-- What stands between two lines of a block, given the end of the first one and the empty lines
after it. In a folded block a line feed between lines that start with no blank becomes a space, or
nothing before empty lines. -/
def blockJoint (isFolded : Bool) (first second : Char) (lineEnd further : List Char) : List Char :=
  let isBlank (ch : Char) := ch == ' ' || ch == '\t'
  if isFolded && lineEnd == ['\n'] && !isBlank first && !isBlank second then
    if further.isEmpty then [' '] else []
  else lineEnd

/-- The lines of a block from an indented one on, after the text read so far. The end of the last
line and the empty lines after it are returned on their own. -/
def blockLines (isFolded : Bool) (indent : Nat) (text : List Char) (c : Cursor) :
    Nat → List Char × List Char × List Char × Cursor
  | 0 => (text, [], [], c)
  | bound + 1 =>
    let first := c.peek
    let (line, c) := c.span (!isStop ·)
    let (lineEnd, c) := c.lineEnd
    let (further, c) := blockLineEnds indent c (c.rest.length + 1)
    let text := text ++ line
    if c.column = indent && c.peek != endMark then
      blockLines isFolded indent
        (text ++ blockJoint isFolded first c.peek lineEnd further ++ further) c bound
    else (text, lineEnd, further, c)

/-- A block scalar whose mark is the next character, inside a block with an indentation. -/
def blockScalar (outer : Int) (c : Cursor) : Except YamlFault (List Char × Cursor) := do
  let isFolded := c.peek == '>'
  let (chomping, increment, c) ← blockIndicators c.next
  let c ← ignoredLine c
  let least := (max (outer + 1) 1).toNat
  let (indent, breaks, c) := match increment with
    | some n =>
      let indent := least + n - 1
      (indent, blockLineEnds indent c (c.rest.length + 1))
    | none =>
      let (breaks, widest, c) := blockStart c 0 (c.rest.length + 1)
      (max least widest, breaks, c)
  let (text, lineEnd, further, c) :=
    if c.column = indent && c.peek != endMark then
      blockLines isFolded indent breaks c (c.rest.length + 1)
    else ([], [], breaks, c)
  return (text ++ (if chomping = .strip then [] else lineEnd)
    ++ (if chomping = .keep then further else []), c)

end Chronicle.Yaml
