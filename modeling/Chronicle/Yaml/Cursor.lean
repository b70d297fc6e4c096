import Chronicle.Text.Range

/-!
# Places in a YAML text

How far a text has been read, and where that is: the number of characters before it, its line and
its column. A line ends with a line feed, a next-line character, a line separator or a paragraph
separator; carriage returns have become line feeds before. Past the end of the text every character
is NUL, which no text contains.
-/
namespace Chronicle.Yaml

/-- A place in a text. -/
structure Cursor where
  rest : List Char
  index : Nat := 0
  line : Nat := 0
  column : Nat := 0
  deriving DecidableEq, Repr, Inhabited

/-- What is read past the end of a text. -/
def endMark : Char := '\x00'

/-- The mark that may precede a text and takes up no column. -/
def byteOrderMark : Char := '\uFEFF'

/-- The end of a line. -/
def isLineEnd (c : Char) : Bool :=
  c == '\n' || c == '\x85' || c == '\u2028' || c == '\u2029'

/-- The end of a line or of the text. -/
def isStop (c : Char) : Bool :=
  c == endMark || isLineEnd c

/-- A space, a tab, or the end of a line or of the text. -/
def isGap (c : Char) : Bool :=
  c == ' ' || c == '\t' || isStop c

/-- A space, or the end of a line or of the text. -/
def isSpaceOrStop (c : Char) : Bool :=
  c == ' ' || isStop c

/-- The characters that a text may contain. -/
def isAllowed (c : Char) : Bool :=
  c == '\t' || c == '\n' || c == '\r'
    || Text.inRanges [(0x20, 0x7E), (0x85, 0x85), (0xA0, 0xD7FF), (0xE000, 0xFFFD),
      (0x10000, 0x10FFFF)] c

namespace Cursor

/-- The character some places ahead. -/
def ahead (c : Cursor) (n : Nat) : Char :=
  (c.rest.drop n).headD endMark

/-- The next character. -/
def peek (c : Cursor) : Char :=
  c.ahead 0

/-- The place after the next character. -/
def next (c : Cursor) : Cursor :=
  match c.rest with
  | [] => c
  | ch :: rest =>
    if isLineEnd ch then ⟨rest, c.index + 1, c.line + 1, 0⟩
    else if ch = byteOrderMark then ⟨rest, c.index + 1, c.line, c.column⟩
    else ⟨rest, c.index + 1, c.line, c.column + 1⟩

/-- The place some characters further on. -/
def skip (c : Cursor) : Nat → Cursor
  | 0 => c
  | n + 1 => skip c.next n

/-- The characters of a class that follow, and the place after them. -/
def span (p : Char → Bool) (c : Cursor) : List Char × Cursor :=
  let found := c.rest.takeWhile p
  (found, c.skip found.length)

/-- The place after the characters of a class that follow. -/
def skipWhile (p : Char → Bool) (c : Cursor) : Cursor :=
  (c.span p).2

/-- The place after the spaces that follow. -/
def skipSpaces (c : Cursor) : Cursor :=
  c.skipWhile (· == ' ')

/-- The place after the comment that follows, if there is one. -/
def skipComment (c : Cursor) : Cursor :=
  if c.peek = '#' then c.skipWhile (!isStop ·) else c

/-- The end of a line that follows, and the place after it. A next-line character counts as a line
feed. -/
def lineEnd (c : Cursor) : List Char × Cursor :=
  let ch := c.peek
  if ch = '\n' ∨ ch = '\x85' then (['\n'], c.next)
  else if isLineEnd ch then ([ch], c.next)
  else ([], c)

/-- Whether three equal characters follow that stand alone. -/
def isAtMark (c : Cursor) (ch : Char) : Bool :=
  c.rest.take 3 == [ch, ch, ch] && isGap (c.ahead 3)

/-- Whether a mark between documents follows. -/
def isAtDocumentMark (c : Cursor) : Bool :=
  c.isAtMark '-' || c.isAtMark '.'

end Cursor

end Chronicle.Yaml
