import Chronicle.Text.Hex
import Chronicle.Text.Printable

/-!
# Quoted texts

How a text is quoted when an error message shows it: in single quotes, or in double quotes when it
holds a single quote and no double one. Quotes of the chosen kind and backslashes are escaped, and
so is every character that is not printable. Octets are quoted like texts, after a letter.
-/
namespace Chronicle.Text

/-- The quotation mark around a text. -/
def quotationMark (s : List Char) : Char :=
  if s.contains '\'' && !s.contains '"' then '"' else '\''

/-- One character between quotation marks. -/
def quotedChar (mark c : Char) : List Char :=
  let n := c.toNat
  if c = mark || c = '\\' then ['\\', c]
  else if c = '\n' then ['\\', 'n']
  else if c = '\r' then ['\\', 'r']
  else if c = '\t' then ['\\', 't']
  else if isPrintable c then [c]
  else if n < 0x100 then '\\' :: 'x' :: hexDigits 2 n
  else if n < 0x10000 then '\\' :: 'u' :: hexDigits 4 n
  else '\\' :: 'U' :: hexDigits 8 n

/-- A text in quotation marks. -/
def quoted (s : List Char) : List Char :=
  let mark := quotationMark s
  mark :: s.flatMap (quotedChar mark) ++ [mark]

/-- A text in quotation marks. -/
def quote (s : String) : String :=
  String.ofList (quoted s.toList)

/-- One octet between quotation marks, given as a character. -/
def quotedOctet (mark c : Char) : List Char :=
  if c.toNat < 0x7F then quotedChar mark c else '\\' :: 'x' :: hexDigits 2 c.toNat

/-- Octets in quotation marks. -/
def quotedOctets (bs : List UInt8) : List Char :=
  let cs := bs.map fun b => Char.ofNat b.toNat
  let mark := quotationMark cs
  'b' :: mark :: cs.flatMap (quotedOctet mark) ++ [mark]

end Chronicle.Text
