import Chronicle.Pattern.Cursor
import Chronicle.Text.Hex

/-!
# Escapes

What a backslash and the characters after it stand for: a code point, a class of characters, a place
or a group. Inside a class of characters only the first two occur.
-/
namespace Chronicle.Pattern

/-- What an escape stands for inside a class. -/
inductive ClassEscape where
  | code (n : Nat)
  | category (k : Category) (negated : Bool)
  deriving DecidableEq, Repr, Inhabited

/-- The letters for code points. -/
def codeOfLetter? : Char → Option Nat
  | 'a' => some 7
  | 'b' => some 8
  | 'f' => some 12
  | 'n' => some 10
  | 'r' => some 13
  | 't' => some 9
  | 'v' => some 11
  | '\\' => some 92
  | _ => none

/-- The letters for kinds of character, and for all others. -/
def categoryOfLetter? : Char → Option (Category × Bool)
  | 'd' => some (.digit, false)
  | 'D' => some (.digit, true)
  | 's' => some (.blank, false)
  | 'S' => some (.blank, true)
  | 'w' => some (.word, false)
  | 'W' => some (.word, true)
  | _ => none

/-- A digit below eight. -/
def isOctal (c : Char) : Bool :=
  '0' ≤ c && c ≤ '7'

/-- The number that octal digits stand for. -/
def ofOctal (cs : List Char) : Nat :=
  cs.foldl (fun n c => n * 8 + (c.toNat - 48)) 0

namespace Reading

/-- A code point written with a number of hexadecimal digits. -/
def hexCode (letter : Char) (count : Nat) : Reading Nat := do
  let digits ← takeUpTo count fun c => (Text.hexValue? c).isSome
  let escape := '\\' :: letter :: digits
  if digits.length < count then
    fail (.incompleteEscape (String.ofList escape)) escape.length
  let n := (Text.ofHexDigits? digits).getD 0
  if 0x10FFFF < n then fail (.badEscape (String.ofList escape)) escape.length
  return n

/-- A code point given by a name. -/
def namedCode : Reading Nat := do
  if !(← accept '{') then fail (.missing "\x7b") 0
  let name := String.ofList (← name '}' "character name")
  match (← get).characters name with
  | some c => return c.toNat
  | none => fail (.unknownCharacter name) (name.length + 4)

/-- A code point written out after one of the letters for that. -/
def writtenCode? (letter : Char) : Reading (Option Nat) := do
  match letter with
  | 'x' => return some (← hexCode letter 2)
  | 'u' => return some (← hexCode letter 4)
  | 'U' => return some (← hexCode letter 8)
  | 'N' => return some (← namedCode)
  | _ => return none

/-- A character that stands for itself after a backslash. Letters and digits of ASCII do not. -/
def escapedSelf (c : Char) : Reading Nat := do
  if c.isAlphanum then fail (.badEscape (String.ofList ['\\', c])) 2
  return c.toNat

/-- The code point of an octal escape, which is below 256. -/
def octalCode (digits : List Char) : Reading Nat := do
  let n := ofOctal digits
  if 0o377 < n then
    fail (.largeOctal (String.ofList ('\\' :: digits))) (digits.length + 1)
  return n

/-- What an escape inside a class stands for, given the character after the backslash. -/
def classEscape (c : Char) : Reading ClassEscape := do
  match codeOfLetter? c, categoryOfLetter? c with
  | some n, _ => return .code n
  | none, some (k, negated) => return .category k negated
  | none, none =>
    if isOctal c then return .code (← octalCode (c :: (← takeUpTo 2 isOctal)))
    match ← writtenCode? c with
    | some n => return .code n
    | none => return .code (← escapedSelf c)

/-- The places that have letters. -/
def placeOfLetter? (ascii : Bool) : Char → Option Place
  | 'A' => some .textStart
  | 'Z' => some .textEnd
  | 'b' => some (.wordEdge ascii)
  | 'B' => some (.notWordEdge ascii)
  | _ => none

/-- A group by its number. -/
def groupByNumber (flags : Flags) (digits : List Char) : Reading Node := do
  let n := Decimal.ofDigits digits
  if (← get).groups.length < n then fail (.unknownGroup n) digits.length
  if !(← isClosed n) then fail .openGroup (digits.length + 1)
  checkLook n
  return .same n flags.casing

/-- An escape that starts with a digit other than zero: three octal digits are a code point, and
else one or two digits are a group. -/
def numberEscape (flags : Flags) (first : Char) : Reading Node := do
  let second ← takeUpTo 1 Char.isDigit
  if isOctal first && second.any isOctal then
    let third ← takeUpTo 1 isOctal
    if !third.isEmpty then return flags.literal (← octalCode (first :: second ++ third))
  groupByNumber flags (first :: second)

/-- What an escape outside of classes stands for, given the character after the backslash. -/
def escape (flags : Flags) (c : Char) : Reading Node := do
  let ascii := flags.contains .ascii
  match placeOfLetter? ascii c, categoryOfLetter? c, codeOfLetter? c with
  | some p, _, _ => return .place p
  | none, some (k, negated), _ => return flags.charClass false [.category k negated ascii]
  | none, none, some n => return flags.literal n
  | none, none, none =>
    if c = '0' then return flags.literal (ofOctal (← takeUpTo 2 isOctal))
    if c.isDigit then return ← numberEscape flags c
    match ← writtenCode? c with
    | some n => return flags.literal n
    | none => return flags.literal (← escapedSelf c)

end Reading

end Chronicle.Pattern
