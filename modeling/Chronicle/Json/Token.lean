import Chronicle.Json.Value
import Chronicle.Text.Hex

/-!
# JSON tokens

The words of a JSON text. Where a text goes on with something that is no token, the tokens end with
`bad`; an integer of too many digits is a token of its own, because what is wrong with it is its
size. Each scanner returns what it found and how many characters that took.
-/
namespace Chronicle.Json

/-- A word of a JSON text. -/
inductive Token where
  | openObject | closeObject | openList | closeList | colon | comma
  /-- A string, which is a value or a key. -/
  | text (s : String)
  /-- Any other value that is one word. -/
  | scalar (v : Json)
  /-- An integer with more digits than are allowed. -/
  | longInteger (digits : Nat)
  /-- No token. -/
  | bad
  deriving Repr, BEq, Inhabited

/-! ### Strings -/

/-- The character that a letter after a backslash stands for. -/
def escapedChar? : Char → Option Char
  | '"' => some '"'
  | '\\' => some '\\'
  | '/' => some '/'
  | 'b' => some '\x08'
  | 'f' => some '\x0c'
  | 'n' => some '\n'
  | 'r' => some '\r'
  | 't' => some '\t'
  | _ => none

/-- The first of two surrogates. -/
def isHighSurrogate (n : Nat) : Bool :=
  0xD800 ≤ n && n < 0xDC00

/-- The second of two surrogates. -/
def isLowSurrogate (n : Nat) : Bool :=
  0xDC00 ≤ n && n < 0xE000

/-- The text of code points among which two surrogates in a row are one character. A text has no
place for a surrogate on its own, which only an escape can name, so the replacement character U+FFFD
stands for it: texts that differ in such surrogates alone are not told apart. -/
def joinSurrogates : List Nat → List Char
  | [] => []
  | n :: rest =>
    if isHighSurrogate n then
      match rest with
      | [] => ['\uFFFD']
      | m :: rest' =>
        if isLowSurrogate m then
          Char.ofNat (0x10000 + (n - 0xD800) * 0x400 + (m - 0xDC00)) :: joinSurrogates rest'
        else '\uFFFD' :: joinSurrogates (m :: rest')
    else if isLowSurrogate n then '\uFFFD' :: joinSurrogates rest
    else Char.ofNat n :: joinSurrogates rest

/-- The code points of a string after its opening quotation mark, and the number of characters up
to and with the closing one. -/
def scanString : List Char → Option (List Nat × Nat)
  | [] => none
  | '"' :: _ => some ([], 1)
  | '\\' :: 'u' :: a :: b :: c :: d :: rest => do
    let n ← Text.ofHexDigits? [a, b, c, d]
    let (ns, used) ← scanString rest
    return (n :: ns, used + 6)
  | '\\' :: e :: rest => do
    let c ← escapedChar? e
    let (ns, used) ← scanString rest
    return (c.toNat :: ns, used + 2)
  | c :: rest =>
    if c = '\\' || c.toNat < 0x20 then none
    else do
      let (ns, used) ← scanString rest
      return (c.toNat :: ns, used + 1)

/-! ### Numbers and other words -/

/-- The exponent of a number, from its letter on: its value and its length. -/
def scanExponent (cs : List Char) : Option (Int × Nat) :=
  match cs with
  | 'e' :: t | 'E' :: t =>
    let (negative, signed, ds) := match t with
      | '-' :: t => (true, 1, t)
      | '+' :: t => (false, 1, t)
      | t => (false, 0, t)
    let digits := ds.takeWhile Char.isDigit
    if digits.isEmpty then none
    else
      let n : Int := Decimal.ofDigits digits
      some (if negative then -n else n, 1 + signed + digits.length)
  | _ => none

/-- The digits of a fraction, from its point on. -/
def scanFraction : List Char → List Char
  | '.' :: t => t.takeWhile Char.isDigit
  | _ => []

/-- The digits of a whole number: a zero, or digits that do not start with one. -/
def scanWhole : List Char → List Char
  | '0' :: _ => ['0']
  | t => t.takeWhile Char.isDigit

/-- A number. A point or a letter without digits after it is not part of it. -/
def scanNumber (cs : List Char) : Option (Token × Nat) :=
  let (negative, signed, body) := match cs with
    | '-' :: t => (true, 1, t)
    | t => (false, 0, t)
  let whole := scanWhole body
  if whole.isEmpty then none
  else
    let rest := body.drop whole.length
    let fraction := scanFraction rest
    let pointed := if fraction.isEmpty then 0 else fraction.length + 1
    let used := signed + whole.length + pointed
    let value (e : Int) : Token :=
      .scalar (.float (.ofDecimal negative (Decimal.ofDigits (whole ++ fraction))
        (e - fraction.length)))
    match scanExponent (rest.drop pointed) with
    | some (e, n) => some (value e, used + n)
    | none =>
      if !fraction.isEmpty then some (value 0, used)
      else if Decimal.maxDigits < whole.length then some (.longInteger whole.length, used)
      else
        let n : Int := Decimal.ofDigits whole
        some (.scalar (.int (if negative then -n else n)), used)

/-- The values that are words, with their spelling. -/
def literals : List (List Char × Json) :=
  [("null".toList, .null), ("true".toList, .bool true), ("false".toList, .bool false),
    ("NaN".toList, .float .nan), ("Infinity".toList, .float (.infinity false)),
    ("-Infinity".toList, .float (.infinity true))]

/-- A value that is one word and no string. -/
def scanScalar (cs : List Char) : Option (Token × Nat) :=
  match literals.find? fun l => l.1.isPrefixOf cs with
  | some (word, v) => some (.scalar v, word.length)
  | none => scanNumber cs

/-! ### Texts -/

/-- A blank between tokens. -/
def isSpace (c : Char) : Bool :=
  c == ' ' || c == '\t' || c == '\n' || c == '\r'

/-- The token that a character is by itself. -/
def punctuation? : Char → Option Token
  | '{' => some .openObject
  | '}' => some .closeObject
  | '[' => some .openList
  | ']' => some .closeList
  | ':' => some .colon
  | ',' => some .comma
  | _ => none

/-- The tokens of a text. -/
def tokens : List Char → List Token
  | [] => []
  | c :: t =>
    if isSpace c then tokens t
    else
      match punctuation? c with
      | some token => token :: tokens t
      | none =>
        if c = '"' then
          match scanString t with
          | some (ns, used) => .text (String.ofList (joinSurrogates ns)) :: tokens (t.drop used)
          | none => [.bad]
        else
          match scanScalar (c :: t) with
          | some (token, used) => token :: tokens (t.drop (used - 1))
          | none => [.bad]
termination_by s => s.length
decreasing_by all_goals grind

end Chronicle.Json
