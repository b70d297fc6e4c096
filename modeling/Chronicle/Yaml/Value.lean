import Chronicle.Number.Binary64
import Chronicle.Text.Quoted
import Chronicle.Time.Timestamp

/-!
# YAML values

What a YAML text stands for. Keys of maps and members of sets are values too, other than
collections; a truth value, an integer and a floating-point number are one key when they are equal
as numbers, and all undefined numbers are one key. `Value.shown` is the text of a value on its own,
`Value.inner` inside another one; the members of a set are shown in the order in which they are
written.
-/
namespace Chronicle.Yaml

/-- A YAML value. -/
inductive Value where
  | null
  | bool (b : Bool)
  | int (i : Int)
  | float (x : Binary64)
  | text (s : String)
  | octets (content : List UInt8)
  | date (d : Date)
  /-- A moment that a clock shows, and how many seconds the clock is ahead of universal time, if
  that is known. -/
  | moment (wall : Micros) (zone : Option Int)
  | list (items : List Value)
  | pairs (entries : List (Value × Value))
  | map (entries : List (Value × Value))
  | set (members : List Value)
  deriving Repr, Inhabited

namespace Value

/-! ### Equality -/

/-- The integer that a number or truth value is equal to. -/
def integer? : Value → Option Int
  | .bool b => some (if b then 1 else 0)
  | .int i => some i
  | .float x => x.toInt?
  | _ => none

/-- Whether two values are the same key. -/
def isSameKey (a b : Value) : Bool :=
  match a.integer?, b.integer? with
  | some i, some j => i == j
  | none, none =>
    match a, b with
    | .null, .null => true
    | .float x, .float y => x == y
    | .text s, .text t => s == t
    | .octets s, .octets t => s == t
    | .date d, .date e => d == e
    | .moment v none, .moment w none => v == w
    | .moment v (some y), .moment w (some z) => v - y * 1000000 == w - z * 1000000
    | _, _ => false
  | _, _ => false

/-- Whether a value can be a key. -/
def isKey : Value → Bool
  | .list _ | .pairs _ | .map _ | .set _ => false
  | _ => true

/-- Sets the value of a key: in its place when there is one, and else at the end. -/
def setEntry (entries : List (Value × Value)) (key value : Value) : List (Value × Value) :=
  match entries with
  | [] => [(key, value)]
  | (k, v) :: rest =>
    if k.isSameKey key then (k, value) :: rest else (k, v) :: setEntry rest key value

/-- The value under a text. -/
def entry? (entries : List (Value × Value)) (key : String) : Option Value :=
  (entries.find? fun e => e.1.isSameKey (.text key)).map (·.2)

/-! ### Texts -/

mutual

/-- Whether the integers in a value have so few digits that they are written. -/
def isWritable : Value → Bool
  | .int i => (Decimal.digits i.natAbs).length ≤ Decimal.maxDigits
  | .list items | .set items => areWritable items
  | .pairs entries | .map entries => haveWritable entries
  | _ => true

/-- Whether the integers in the items of a list or set are written. -/
def areWritable : List Value → Bool
  | [] => true
  | v :: rest => isWritable v && areWritable rest

/-- Whether the integers in pairs or the entries of a map are written. -/
def haveWritable : List (Value × Value) → Bool
  | [] => true
  | (k, v) :: rest => isWritable k && isWritable v && haveWritable rest

end

/-- Numbers with commas between them. -/
def numbers (ns : List Nat) : String :=
  ", ".intercalate (ns.map fun n => String.ofList (Decimal.digits n))

/-- The date and the microseconds of the day of a moment. -/
def dateAndTime (wall : Micros) : Date × Nat :=
  (Date.ofDays (wall / dayLength).toNat, (wall % dayLength).toNat)

/-- How far a clock is ahead of universal time, as hours and minutes. -/
def zoneText (seconds : Int) : List Char :=
  let minutes := seconds.natAbs / 60
  (if seconds < 0 then '-' else '+') :: Decimal.padded 2 (minutes / 60)
    ++ ':' :: Decimal.padded 2 (minutes % 60)

/-- The text of a moment on its own. -/
def momentText (wall : Micros) (zone : Option Int) : String :=
  let (d, micros) := dateAndTime wall
  String.ofList (d.text ++ ' ' :: Timestamp.timeText micros ++ (zone.map zoneText).getD [])

/-- The zone of a moment inside another value. -/
def innerZone (seconds : Int) : String :=
  if seconds = 0 then "datetime.timezone.utc"
  else
    let days := seconds / 86400
    let rest := Decimal.digits (seconds % 86400).toNat
    "datetime.timezone(datetime.timedelta("
      ++ (if days = 0 then "" else "days=" ++ String.ofList (Decimal.ofInt days) ++ ", ")
      ++ "seconds=" ++ String.ofList rest ++ "))"

/-- A moment inside another value: seconds are shown when there are some or when there are
microseconds. -/
def innerMoment (wall : Micros) (zone : Option Int) : String :=
  let (d, micros) := dateAndTime wall
  let seconds := micros / 1000000
  let rest := micros % 1000000
  let fine :=
    if rest != 0 then [seconds % 60, rest] else if seconds % 60 != 0 then [seconds % 60] else []
  "datetime.datetime("
    ++ numbers ([d.year, d.month, d.day, seconds / 3600, seconds / 60 % 60] ++ fine)
    ++ (match zone with
      | none => ""
      | some z => ", tzinfo=" ++ innerZone z) ++ ")"

/-- How floating-point numbers are written. -/
def floatStyle : Binary64.DecimalStyle :=
  Binary64.decimalStyle "nan" "inf"

mutual

/-- The text of a value inside another one. -/
def inner : Value → String
  | .null => "None"
  | .bool b => if b then "True" else "False"
  | .int i => String.ofList (Decimal.ofInt i)
  | .float x => String.ofList (floatStyle.text x)
  | .text s => Text.quote s
  | .octets content => String.ofList (Text.quotedOctets content)
  | .date d => "datetime.date(" ++ numbers [d.year, d.month, d.day] ++ ")"
  | .moment wall zone => innerMoment wall zone
  | .list items => "[" ++ ", ".intercalate (innerItems items) ++ "]"
  | .pairs entries => "[" ++ ", ".intercalate (innerPairs entries) ++ "]"
  | .map entries => "\x7b" ++ ", ".intercalate (innerEntries entries) ++ "\x7d"
  | .set [] => "set()"
  | .set (v :: rest) => "\x7b" ++ ", ".intercalate (inner v :: innerItems rest) ++ "\x7d"

/-- The texts of the items of a list or set. -/
def innerItems : List Value → List String
  | [] => []
  | v :: rest => inner v :: innerItems rest

/-- The texts of pairs. -/
def innerPairs : List (Value × Value) → List String
  | [] => []
  | (k, v) :: rest => ("(" ++ inner k ++ ", " ++ inner v ++ ")") :: innerPairs rest

/-- The texts of the entries of a map. -/
def innerEntries : List (Value × Value) → List String
  | [] => []
  | (k, v) :: rest => (inner k ++ ": " ++ inner v) :: innerEntries rest

end

/-- The text of a value on its own. -/
def shown : Value → String
  | .text s => s
  | .date d => String.ofList d.text
  | .moment wall zone => momentText wall zone
  | v => v.inner

end Value

end Chronicle.Yaml
