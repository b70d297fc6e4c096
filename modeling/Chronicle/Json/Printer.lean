import Chronicle.Json.Value
import Chronicle.Text.Hex

/-!
# JSON in its shortest form

No blanks, members in order, and nothing escaped but quotation marks, backslashes and control
characters. Integers are written in full, however long they are: the limit of `Decimal.maxDigits` is
one of reading.
-/
namespace Chronicle.Json

/-- A character inside a string. -/
def printChar (c : Char) : List Char :=
  if c = '"' then ['\\', '"']
  else if c = '\\' then ['\\', '\\']
  else if c = '\n' then ['\\', 'n']
  else if c = '\r' then ['\\', 'r']
  else if c = '\t' then ['\\', 't']
  else if c = '\x08' then ['\\', 'b']
  else if c = '\x0c' then ['\\', 'f']
  else if c.toNat < 0x20 then '\\' :: 'u' :: Text.hexDigits 4 c.toNat
  else [c]

/-- A string in its quotation marks. -/
def printString (s : List Char) : List Char :=
  '"' :: s.flatMap printChar ++ ['"']

/-- Numbers of binary64 are written with the fewest digits that read back. -/
def floatStyle : Binary64.DecimalStyle :=
  Binary64.decimalStyle "NaN" "Infinity"

mutual

/-- A value. -/
def print : Json → List Char
  | .null => ['n', 'u', 'l', 'l']
  | .bool true => ['t', 'r', 'u', 'e']
  | .bool false => ['f', 'a', 'l', 's', 'e']
  | .int i => Decimal.ofInt i
  | .float x => floatStyle.text x
  | .str s => printString s.toList
  | .arr [] => ['[', ']']
  | .arr (v :: vs) => '[' :: print v ++ printItems vs
  | .obj [] => ['{', '}']
  | .obj ((k, v) :: ms) => '{' :: printString k.toList ++ ':' :: print v ++ printMembers ms

/-- The items after the first, up to the end of the list. -/
def printItems : List Json → List Char
  | [] => [']']
  | v :: vs => ',' :: print v ++ printItems vs

/-- The members after the first, up to the end of the object. -/
def printMembers : List (String × Json) → List Char
  | [] => ['}']
  | (k, v) :: ms => ',' :: printString k.toList ++ ':' :: print v ++ printMembers ms

end

/-- The text of a value. -/
def text (v : Json) : String :=
  String.ofList (print v)

end Chronicle.Json
