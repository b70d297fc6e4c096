import Chronicle.Number.Binary64
import Chronicle.Text.Alphanumeric
import Chronicle.Text.Blank
import Chronicle.Text.Hex

/-!
# Numbers in texts

How a text on its own is read as a number. There may be blanks around the number and a sign before
it, and its digits may be those of any script. An integer may have the mark of its base before its
digits, and single underscores between them; a floating-point number may be a word.
-/
namespace Chronicle.Numeral

/-! ### Characters -/

/-- A blank of ASCII, which may stand around a number. -/
def isSpace (c : Char) : Bool :=
  c == ' ' || (9 ≤ c.toNat && c.toNat ≤ 13)

/-- A text with the digits and blanks of all scripts as those of ASCII. No number goes on after any
other character, so a question mark stands for the rest of the text. -/
def asciiForm : List Char → List Char
  | [] => []
  | c :: rest =>
    if c.toNat < 0x7F then c :: asciiForm rest
    else if Text.isBlank c then ' ' :: asciiForm rest
    else
      match Text.decimalValue? c with
      | some d => Decimal.digitChar d :: asciiForm rest
      | none => ['?']

/-- A text without its sign, and whether that is a minus. -/
def unsigned : List Char → Bool × List Char
  | '-' :: rest => (true, rest)
  | '+' :: rest => (false, rest)
  | cs => (false, cs)

/-! ### Integers -/

/-- Why a text is no integer. -/
inductive Flaw where
  | unreadable
  /-- It has this many digits, which are too many. -/
  | tooLong (digits : Nat)
  deriving DecidableEq, Repr, Inhabited

/-- A digit in a base. -/
def isDigitIn (base : Nat) (c : Char) : Bool :=
  (Text.hexValue? c).any (· < base)

/-- The letter that marks a base after a zero. -/
def baseLetter? : Nat → Option Char
  | 2 => some 'b'
  | 8 => some 'o'
  | 16 => some 'x'
  | _ => none

/-- Digits without the mark of their base, if there is one. One underscore may follow the mark. -/
def withoutMark (base : Nat) : List Char → List Char
  | '0' :: letter :: rest =>
    if baseLetter? base = some letter.toLower then
      if rest.head? = some '_' then rest.tail else rest
    else '0' :: letter :: rest
  | cs => cs

/-- Whether underscores stand only between two digits, one at a time. -/
def areSeparators : List Char → Bool
  | [] => true
  | ['_'] => false
  | '_' :: '_' :: _ => false
  | _ :: rest => areSeparators rest

/-- The number that digits in a base stand for. -/
def ofDigits (base : Nat) (digits : List Char) : Nat :=
  digits.foldl (fun n c => n * base + (Text.hexValue? c).getD 0) 0

/-- The natural number in a base at the start of a text that blanks may follow. Only the number of
decimal digits has a limit. -/
def natural (base : Nat) (cs : List Char) : Except Flaw Nat :=
  let isPart (c : Char) := isDigitIn base c || c == '_'
  let run := cs.takeWhile isPart
  let digits := run.filter (· != '_')
  if run.head? = some '_' || !areSeparators run then .error .unreadable
  else if base = 10 ∧ Decimal.maxDigits < digits.length then .error (.tooLong digits.length)
  else if digits.isEmpty || !(cs.dropWhile isPart).all isSpace then .error .unreadable
  else .ok (ofDigits base digits)

/-- The integer in a base that a text stands for. -/
def integer (base : Nat) (text : List Char) : Except Flaw Int :=
  let (negative, body) := unsigned ((asciiForm text).dropWhile isSpace)
  (natural base (withoutMark base body)).map fun n => if negative then -(n : Int) else n

/-! ### Floating-point numbers -/

/-- The exponent that ends a number: a letter, perhaps a sign, and digits. -/
def exponent? : List Char → Option Int
  | [] => some 0
  | letter :: rest =>
    let (negative, digits) := unsigned rest
    if letter != 'e' || digits.isEmpty || !digits.all Char.isDigit then none
    else some (if negative then -(Decimal.ofDigits digits : Int) else Decimal.ofDigits digits)

/-- The value of digits with a point among them and an exponent after them. -/
def decimal? (negative : Bool) (body : List Char) : Option Binary64 :=
  let whole := body.takeWhile Char.isDigit
  let (fraction, rest) := match body.dropWhile Char.isDigit with
    | '.' :: after => (after.takeWhile Char.isDigit, after.dropWhile Char.isDigit)
    | rest => ([], rest)
  if whole.isEmpty && fraction.isEmpty then none
  else
    (exponent? rest).map fun e =>
      .ofDecimal negative (Decimal.ofDigits (whole ++ fraction)) (e - fraction.length)

/-- The floating-point number that a text in lower case stands for. -/
def float? (text : List Char) : Option Binary64 :=
  let (negative, body) := unsigned (Text.trim isSpace (asciiForm text))
  match String.ofList body with
  | "inf" | "infinity" => some (.infinity negative)
  | "nan" => some .nan
  | _ => decimal? negative body

end Chronicle.Numeral
