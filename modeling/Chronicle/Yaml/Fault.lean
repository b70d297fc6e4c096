import Chronicle.Number.Decimal
import Chronicle.Text.Quoted
import Chronicle.Time.Calendar

/-!
# What is wrong with a YAML text

A text may break the rules of YAML itself. Or one of its scalars has the form of a number, a date or
a character code that there is not; what is wrong then is told in other words, which are those of
the kind of value.
-/
namespace Chronicle

/-- A part of a time of day that there is not. -/
inductive ClockPart where
  | hour | minute | second
  deriving DecidableEq, Repr, Inhabited

/-- What is wrong with a YAML text. -/
inductive YamlFault where
  | malformed
  /-- There is no character with this code. -/
  | noSuchCode (code : Nat)
  /-- There is no such date. -/
  | noSuchDate (d : Date)
  | noSuchTime (part : ClockPart)
  /-- A clock so many seconds ahead of universal time is a day or more away from it. -/
  | noSuchZone (seconds : Int)
  /-- A number has this many digits, which are too many. -/
  | longNumber (digits : Nat)
  /-- A number has no characters. -/
  | emptyNumber
  /-- A text that should be an integer in a base is none. -/
  | noInteger (base : Nat) (text : List Char)
  /-- A text that should be a floating-point number is none. -/
  | noFloat (text : List Char)
  /-- A floating-point number has so many sixtieths that the first of them counts too much. -/
  | manySixtieths
  /-- A text that should be a truth value is none. -/
  | noTruth (text : List Char)
  /-- A text that should be a date or a moment is none. -/
  | noTimestamp
  /-- A map stands for a date or a moment. -/
  | mappedTimestamp
  deriving DecidableEq, Repr, Inhabited

namespace YamlFault

/-- A number of seconds as days and the seconds of a day. -/
def daysAndSeconds (seconds : Int) : Int × Nat :=
  (seconds / 86400, (seconds % 86400).toNat)

/-- A span of time in full seconds, as a value is written. -/
def spanText (seconds : Int) : String :=
  let (days, rest) := daysAndSeconds seconds
  let parts :=
    (if days = 0 then [] else ["days=" ++ String.ofList (Decimal.ofInt days)])
      ++ if rest = 0 then [] else ["seconds=" ++ String.ofList (Decimal.digits rest)]
  "datetime.timedelta(" ++ (if parts.isEmpty then "0" else ", ".intercalate parts) ++ ")"

/-- What is wrong with a date: its year, else its month, else its day. -/
def dateText (d : Date) : String :=
  if d.year = 0 ∨ 9999 < d.year then
    "year " ++ String.ofList (Decimal.digits d.year) ++ " is out of range"
  else if d.month = 0 ∨ 12 < d.month then "month must be in 1..12"
  else "day is out of range for month"

/-- The text of a fault. -/
def message : YamlFault → String
  | .malformed => "malformed"
  | .noSuchCode code =>
    if code < 0x80000000 then "chr() arg not in range(0x110000)"
    else "Python int too large to convert to C int"
  | .noSuchDate d => dateText d
  | .noSuchTime .hour => "hour must be in 0..23"
  | .noSuchTime .minute => "minute must be in 0..59"
  | .noSuchTime .second => "second must be in 0..59"
  | .noSuchZone seconds =>
    "offset must be a timedelta strictly between -timedelta(hours=24) and timedelta(hours=24), not "
      ++ spanText seconds ++ "."
  | .longNumber digits => Decimal.tooLong digits
  | .emptyNumber => "string index out of range"
  | .noInteger base text =>
    "invalid literal for int() with base " ++ String.ofList (Decimal.digits base) ++ ": "
      ++ String.ofList ((Text.quoted text).take 200)
  | .noFloat text => "could not convert string to float: " ++ Text.quote (String.ofList text)
  | .manySixtieths => "int too large to convert to float"
  | .noTruth text => Text.quote (String.ofList text)
  | .noTimestamp => "'NoneType' object has no attribute 'groupdict'"
  | .mappedTimestamp => "expected string or bytes-like object, got 'list'"

end YamlFault

end Chronicle
