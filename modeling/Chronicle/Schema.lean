import Chronicle.Number.Binary64
import Chronicle.Number.Word
import Chronicle.Octets.Utf8
import Chronicle.Text.Blank
import Chronicle.Vocabulary

/-!
# Typed fields

How the scalars of a record are read as texts, integers and truth values. A text is made out of
nothing else but octets in UTF-8; an integer or a truth value may also be written as a number or a
text. `Fault` says why a value does not fit.
-/
namespace Chronicle.Schema

/-- A value as a field sees it. -/
inductive Scalar where
  | null
  | bool (b : Bool)
  | int (i : Int)
  | float (x : Binary64)
  | text (s : String)
  | octets (content : List UInt8)
  /-- A list, a dictionary or any other value that is no scalar. -/
  | other
  deriving DecidableEq, Repr, Inhabited

/-- Why a value does not fit its field. -/
inductive Fault where
  /-- The field is required and there is none. -/
  | missing
  | notText
  /-- The value is octets that are no text. -/
  | unreadableText
  | notDictionary
  /-- The value is no dictionary, where a record of this name is expected. -/
  | notRecord (name : String)
  | notList
  | notInteger
  | unreadableInteger
  | longInteger
  | fractionalInteger
  | infiniteInteger
  | notBoolean
  | unreadableBoolean
  /-- The value is none of these words. -/
  | unknownWord (words : List String)
  /-- The record has no such field. -/
  | extra
  | emptyText
  | keyNotText
  /-- The value breaks a rule of its own, stated by this text. -/
  | rule (text : String)
  deriving DecidableEq, Repr, Inhabited

/-- Words in single quotes, the last two joined by "or". -/
def alternatives : List String → String
  | [] => ""
  | [w] => "'" ++ w ++ "'"
  | [v, w] => "'" ++ v ++ "' or '" ++ w ++ "'"
  | w :: ws => "'" ++ w ++ "', " ++ alternatives ws

/-- The text of a fault. -/
def Fault.message : Fault → String
  | .missing => "Field required"
  | .notText => "Input should be a valid string"
  | .unreadableText =>
    "Input should be a valid string, unable to parse raw data as a unicode string"
  | .notDictionary => "Input should be a valid dictionary"
  | .notRecord name => "Input should be a valid dictionary or instance of " ++ name
  | .notList => "Input should be a valid list"
  | .notInteger => "Input should be a valid integer"
  | .unreadableInteger => "Input should be a valid integer, unable to parse string as an integer"
  | .longInteger => "Unable to parse input string as an integer, exceeded maximum size"
  | .fractionalInteger => "Input should be a valid integer, got a number with a fractional part"
  | .infiniteInteger => "Input should be a finite number"
  | .notBoolean => "Input should be a valid boolean"
  | .unreadableBoolean => "Input should be a valid boolean, unable to interpret input"
  | .unknownWord words => "Input should be " ++ alternatives words
  | .extra => "Extra inputs are not permitted"
  | .emptyText => "String should have at least 1 character"
  | .keyNotText => "Keys should be strings"
  | .rule text => "Value error, " ++ text

/-! ### Texts and words -/

/-- The text that octets are, or else a fault. -/
def textOfOctets (fault : Fault) (content : List UInt8) : Except Fault (List Char) :=
  (Utf8.decode content).mapError fun _ => fault

/-- A text. -/
def text : Scalar → Except Fault String
  | .text s => .ok s
  | .octets content => (textOfOctets .unreadableText content).map String.ofList
  | _ => .error .notText

/-- A text, or nothing. -/
def text? : Scalar → Except Fault (Option String)
  | .null => .ok none
  | v => some <$> text v

/-- A word of a vocabulary. -/
def word (α : Type) [Vocabulary α] : Scalar → Except Fault α
  | .text s =>
    match Vocabulary.ofWord? s with
    | some a => .ok a
    | none => .error (.unknownWord (Vocabulary.words α))
  | _ => .error (.unknownWord (Vocabulary.words α))

/-- A word of a vocabulary, or nothing. -/
def word? (α : Type) [Vocabulary α] : Scalar → Except Fault (Option α)
  | .null => .ok none
  | v => some <$> word α v

/-! ### Integers -/

/-- Digits without the zeros in front of them; an underscore after the first zero goes with the
zeros. One zero stays where no other digit follows. -/
def withoutLeadingZeros : List Char → List Char
  | '0' :: t =>
    let isFiller (c : Char) := c == '0' || c == '_'
    let rest := t.dropWhile isFiller
    match rest with
    | [] | '.' :: _ => (t.takeWhile isFiller).getLastD '0' :: rest
    | _ => rest
  | s => s

/-- Digits without a point that only zeros follow. -/
def withoutZeroFraction (s : List Char) : List Char :=
  match s.dropWhile (· != '.') with
  | '.' :: t => if t.all (· == '0') then s.takeWhile (· != '.') else s
  | _ => s

/-- Digits without the underscores that stand alone between two of them. -/
def withoutSeparators : List Char → List Char
  | c :: '_' :: d :: t =>
    if c.isDigit && d.isDigit then c :: withoutSeparators (d :: t)
    else c :: '_' :: withoutSeparators (d :: t)
  | c :: t => c :: withoutSeparators t
  | [] => []

/-- The integer that a text stands for: a sign, digits with single underscores between them, and a
fraction of zeros, surrounded by white space. -/
def integerOfText (s : List Char) : Except Fault Int :=
  let s := Text.trim Text.isWhiteSpace s
  let (negative, s) := match s with
    | '-' :: t => (true, t)
    | '+' :: t => (false, t)
    | t => (false, t)
  let plain := if negative then s else withoutLeadingZeros s
  let digits := withoutSeparators (withoutZeroFraction plain)
  let signed := if negative then 1 else 0
  if Decimal.maxDigits < signed + (digits.takeWhile Char.isDigit).length then .error .longInteger
  else if digits.isEmpty || !digits.all Char.isDigit then .error .unreadableInteger
  else
    let n : Int := Decimal.ofDigits digits
    .ok (if negative then -n else n)

/-- The integer that a binary64 value is equal to, if it fits a word of 64 bits with a sign. -/
def integerOfFloat (x : Binary64) : Except Fault Int :=
  if !x.isFinite then .error .infiniteInteger
  else
    match x.toInt? with
    | none => .error .fractionalInteger
    | some i => if i.natAbs < wordBound then .ok i else .error .longInteger

/-- An integer, also written as a truth value, as a number with a fraction of zeros or as a text. -/
def integer : Scalar → Except Fault Int
  | .bool b => .ok (if b then 1 else 0)
  | .int i => .ok i
  | .float x => integerOfFloat x
  | .text s => integerOfText s.toList
  | .octets content => textOfOctets .unreadableInteger content >>= integerOfText
  | _ => .error .notInteger

/-- An integer, or nothing. -/
def integer? : Scalar → Except Fault (Option Int)
  | .null => .ok none
  | v => some <$> integer v

/-! ### Truth values -/

/-- The words for false. -/
def falseWords : List String := ["0", "off", "f", "false", "n", "no"]

/-- The words for true. -/
def trueWords : List String := ["1", "on", "t", "true", "y", "yes"]

/-- The truth value of zero or one. -/
def booleanOfInt (i : Int) : Except Fault Bool :=
  if i = 0 then .ok false else if i = 1 then .ok true else .error .unreadableBoolean

/-- The truth value of a word in any case. -/
def booleanOfText (s : List Char) : Except Fault Bool :=
  let low := String.ofList (s.map Char.toLower)
  if falseWords.contains low then .ok false
  else if trueWords.contains low then .ok true
  else .error .unreadableBoolean

/-- A truth value, also written as zero, one or a word in any case. -/
def boolean : Scalar → Except Fault Bool
  | .bool b => .ok b
  | .int i =>
    if fitsWord i then booleanOfInt i else .error .notBoolean
  | .float x =>
    match integerOfFloat x with
    | .ok i => booleanOfInt i
    | .error _ => .error .notBoolean
  | .text s => booleanOfText s.toList
  | .octets content => textOfOctets .unreadableBoolean content >>= booleanOfText
  | _ => .error .notBoolean

end Chronicle.Schema
