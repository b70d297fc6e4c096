import Chronicle.Time.Calendar

/-!
# Timestamps

A moment as a clock on a wall shows it, and how far that clock is from universal time. The moment in
universal time may lie outside the calendar; `Timestamp.utc?` is then nothing.
-/
namespace Chronicle

/-- Microseconds. -/
abbrev Micros := Int

/-- The microseconds of a day. -/
def dayLength : Micros := 86400 * 1000000

/-- What a clock shows. -/
structure Timestamp where
  /-- The time on the clock, from the first moment of the calendar on. -/
  wall : Micros
  /-- How far the clock is ahead of universal time. -/
  offset : Micros := 0
  deriving DecidableEq, Repr, Inhabited

namespace Timestamp

/-- The end of the calendar. -/
def calendarEnd : Micros := 3652059 * dayLength

/-- The moment in universal time, if the calendar has it. -/
def utc? (t : Timestamp) : Option Micros :=
  let u := t.wall - t.offset
  if 0 ≤ u ∧ u < calendarEnd then some u else none

/-- The moment so many microseconds after the start of 1970, in universal time. -/
def ofUnixMicros (micros : Micros) : Timestamp :=
  ⟨(⟨1970, 1, 1⟩ : Date).days * dayLength + micros, 0⟩

/-- The text of a time of day: seconds are written always, and microseconds when there are some. -/
def timeText (micros : Nat) : List Char :=
  let seconds := micros / 1000000
  let rest := micros % 1000000
  Decimal.padded 2 (seconds / 3600) ++ ':' :: Decimal.padded 2 (seconds / 60 % 60)
    ++ ':' :: Decimal.padded 2 (seconds % 60)
    ++ if rest = 0 then [] else '.' :: Decimal.padded 6 rest

/-- The text of a moment in universal time. -/
def utcText (u : Micros) : List Char :=
  (Date.ofDays (u / dayLength).toNat).text ++ 'T' :: timeText (u % dayLength).toNat ++ ['Z']

/-! ### Reading -/

/-- The number of exactly so many digits at the start, and what follows them. -/
def digits? (count : Nat) (cs : List Char) : Option (Nat × List Char) :=
  let ds := cs.take count
  if ds.length = count && ds.all Char.isDigit then some (Decimal.ofDigits ds, cs.drop count)
  else none

/-- The microseconds of a fraction, digits beyond the sixth being dropped, and what follows. -/
def fraction (cs : List Char) : Nat × List Char :=
  match cs with
  | '.' :: t | ',' :: t =>
    let ds := t.takeWhile Char.isDigit
    (Decimal.ofDigits ((ds ++ List.replicate 6 '0').take 6), t.dropWhile Char.isDigit)
  | _ => (0, cs)

/-- A time of day in microseconds, of which only the hour is required, and what follows. -/
def timeOfDay? (cs : List Char) : Option (Nat × List Char) := do
  let (hour, rest) ← digits? 2 cs
  let hours := hour * 3600 * 1000000
  match rest with
  | ':' :: rest =>
    let (minute, rest) ← digits? 2 rest
    let minutes := hours + minute * 60 * 1000000
    match rest with
    | ':' :: rest =>
      let (s, rest) ← digits? 2 rest
      let (micros, rest) := fraction rest
      return (minutes + s * 1000000 + micros, rest)
    | _ => return (minutes, rest)
  | _ => return (hours, rest)

/-- How far a clock is ahead of universal time. -/
def offset? : List Char → Option Micros
  | ['Z'] => some 0
  | '+' :: t => do
    let (micros, rest) ← timeOfDay? t
    if rest.isEmpty then some micros else none
  | '-' :: t => do
    let (micros, rest) ← timeOfDay? t
    if rest.isEmpty then some (-(micros : Int)) else none
  | _ => none

/-- The timestamp that a text gives: a date, a time of day and an offset. -/
def ofText? (cs : List Char) : Option Timestamp := do
  let (year, rest) ← digits? 4 cs
  let (month, rest) ← digits? 2 (rest.drop 1)
  let (day, rest) ← digits? 2 (rest.drop 1)
  let (micros, rest) ← timeOfDay? (rest.drop 1)
  let offset ← offset? rest
  let date : Date := ⟨year, month, day⟩
  if date.Valid then some ⟨date.days * dayLength + micros, offset⟩ else none

end Timestamp

end Chronicle
