import Chronicle.Text.Split
import Chronicle.Time.Timestamp
import Chronicle.Yaml.Node

/-!
# Plain scalars

What kind of value a plain scalar is follows from its text: a truth value, a number, nothing, a date
or a date with a time of day, and else a text. `Tag.ofPlain` says which.
-/
namespace Chronicle.Yaml

namespace Plain

/-! ### Words and numbers -/

/-- The words for truth values, each in three spellings. -/
def booleans : List (String × Bool) :=
  [("yes", true), ("Yes", true), ("YES", true), ("no", false), ("No", false), ("NO", false),
    ("true", true), ("True", true), ("TRUE", true), ("false", false), ("False", false),
    ("FALSE", false), ("on", true), ("On", true), ("ON", true), ("off", false), ("Off", false),
    ("OFF", false)]

/-- The words for no value. -/
def nulls : List String :=
  ["", "~", "null", "Null", "NULL"]

/-- A text without a sign at its start. -/
def unsigned : List Char → List Char
  | '+' :: t | '-' :: t => t
  | t => t

/-- A digit or an underscore. -/
def isDigitOrGap (c : Char) : Bool :=
  c.isDigit || c == '_'

/-- A digit, and then digits and underscores. -/
def isWhole : List Char → Bool
  | [] => false
  | c :: rest => c.isDigit && rest.all isDigitOrGap

/-- A whole number without a zero at its start. -/
def isPositive (cs : List Char) : Bool :=
  isWhole cs && cs.head? != some '0'

/-- The part of a number after a colon: a number below sixty, of one or two digits. -/
def isSixtieth : List Char → Bool
  | [c] => c.isDigit
  | [c, d] => '0' ≤ c && c ≤ '5' && d.isDigit
  | _ => false

/-- A whole number of a class, and then sixtieths. -/
def isSexagesimal (isFirst : List Char → Bool) (cs : List Char) : Bool :=
  match Text.split ':' cs with
  | first :: second :: rest => isFirst first && (second :: rest).all isSixtieth
  | _ => false

/-- The exponent of a number, which always has a sign, or nothing. -/
def isExponent : List Char → Bool
  | [] => true
  | e :: sign :: digits =>
    (e == 'e' || e == 'E') && (sign == '+' || sign == '-') && !digits.isEmpty
      && digits.all Char.isDigit
  | _ => false

/-- The part of a text before its first point, and what follows the point. -/
def atPoint (cs : List Char) : Option (List Char × List Char) :=
  match cs.dropWhile (· != '.') with
  | _ :: after => some (cs.takeWhile (· != '.'), after)
  | [] => none

/-- A number with a point, or a word for an infinite or undefined one. -/
def isFloat (cs : List Char) : Bool :=
  let body := unsigned cs
  [".inf", ".Inf", ".INF"].contains (String.ofList body)
    || [".nan", ".NaN", ".NAN"].contains (String.ofList cs)
    || match atPoint body with
      | none => false
      | some (whole, after) =>
        let fraction := after.takeWhile isDigitOrGap
        let rest := after.dropWhile isDigitOrGap
        if whole.isEmpty then body == cs && isWhole fraction && isExponent rest
        else
          (isWhole whole && isExponent rest) || (isSexagesimal isWhole whole && rest.isEmpty)

/-- An integer: binary, octal, decimal, hexadecimal or with sixtieths. -/
def isInt (cs : List Char) : Bool :=
  let body := unsigned cs
  let isHex (c : Char) :=
    c.isDigit || ('a' ≤ c && c ≤ 'f') || ('A' ≤ c && c ≤ 'F') || c == '_'
  match body with
  | '0' :: 'b' :: rest => !rest.isEmpty && rest.all fun c => c == '0' || c == '1' || c == '_'
  | '0' :: 'x' :: rest => !rest.isEmpty && rest.all isHex
  | '0' :: rest => rest.all fun c => ('0' ≤ c && c ≤ '7') || c == '_'
  | _ => isPositive body || isSexagesimal isPositive body

/-! ### Dates and times -/

/-- A time of day with the distance of its clock from universal time, as it is written. -/
structure ClockText where
  hour : Nat
  minute : Nat
  second : Nat
  micros : Nat
  /-- How many seconds the clock is ahead of universal time, if that is said. -/
  zone : Option Int
  deriving DecidableEq, Repr, Inhabited

/-- A number of one or two digits, and what follows it. -/
def shortNumber? (cs : List Char) : Option (Nat × List Char) :=
  let digits := (cs.take 2).takeWhile Char.isDigit
  if digits.isEmpty then none else some (Decimal.ofDigits digits, cs.drop digits.length)

/-- What follows a certain character. -/
def after? (c : Char) : List Char → Option (List Char)
  | d :: rest => if c = d then some rest else none
  | [] => none

/-- A blank between the parts of a timestamp. -/
def isBlank (c : Char) : Bool :=
  c == ' ' || c == '\t'

/-- The distance from universal time that ends a timestamp, or nothing. -/
def zone? (cs : List Char) : Option (Option Int) :=
  match cs.dropWhile isBlank with
  | [] => if cs.isEmpty then some none else none
  | ['Z'] => some (some 0)
  | sign :: rest => do
    if sign != '+' && sign != '-' then none
    let (hours, rest) ← shortNumber? rest
    let minutes ← if rest.isEmpty then some 0 else do
      let (minutes, rest) ← Timestamp.digits? 2 (← after? ':' rest)
      if rest.isEmpty then some minutes else none
    let seconds : Int := hours * 3600 + minutes * 60
    return some (if sign = '-' then -seconds else seconds)

/-- A time of day after the letter or the blanks between it and a date. -/
def clock? (cs : List Char) : Option ClockText := do
  let rest ← match cs with
    | 'T' :: rest | 't' :: rest => some rest
    | c :: rest => if isBlank c then some (rest.dropWhile isBlank) else none
    | [] => none
  let (hour, rest) ← shortNumber? rest
  let (minute, rest) ← Timestamp.digits? 2 (← after? ':' rest)
  let (second, rest) ← Timestamp.digits? 2 (← after? ':' rest)
  let (micros, rest) := if rest.head? = some '.' then Timestamp.fraction rest else (0, rest)
  return ⟨hour, minute, second, micros, ← zone? rest⟩

/-- A date, perhaps with a time of day. -/
def timestamp? (cs : List Char) : Option (Date × Option ClockText) := do
  let (year, rest) ← Timestamp.digits? 4 cs
  let (month, rest) ← shortNumber? (← after? '-' rest)
  let (day, rest) ← shortNumber? (← after? '-' rest)
  if rest.isEmpty then return (⟨year, month, day⟩, none)
  return (⟨year, month, day⟩, some (← clock? rest))

/-- Whether a text is a timestamp without being said to be one. On its own a date has two digits for
the month and the day. -/
def isTimestamp (cs : List Char) : Bool :=
  (timestamp? cs).any fun found => found.2.isSome || cs.length = 10

/-- A text without the line feed that may end it. -/
def chomp (cs : List Char) : List Char :=
  if cs.getLast? = some '\n' then cs.dropLast else cs

end Plain

/-- The tag of a plain scalar. A line feed at its end does not matter, but is no scalar of its
own. -/
def Tag.ofPlain (cs : List Char) : Tag :=
  let body := Plain.chomp cs
  let text := String.ofList body
  if cs = ['\n'] then .text
  else if (Plain.booleans.lookup text).isSome then .bool
  else if Plain.isFloat body then .float
  else if Plain.isInt body then .int
  else if text = "<<" then .merge
  else if Plain.nulls.contains text then .null
  else if Plain.isTimestamp body then .timestamp
  else if text = "=" then .equals
  else .text

end Chronicle.Yaml
