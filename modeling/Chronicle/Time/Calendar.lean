import Chronicle.Number.Decimal

/-!
# The calendar

Dates from the year 1 to the year 9999 in the calendar that has a leap year every four years, none
every hundred and one every four hundred. A date is also the number of days since the first one:
`Date.days` and `Date.ofDays` go between the two.
-/
namespace Chronicle

/-- Whether a year has a leap day. -/
def isLeapYear (year : Nat) : Bool :=
  year % 4 == 0 && (year % 100 != 0 || year % 400 == 0)

/-- How many days a month has. -/
def daysInMonth (year month : Nat) : Nat :=
  if month = 2 then if isLeapYear year then 29 else 28
  else if month = 4 ∨ month = 6 ∨ month = 9 ∨ month = 11 then 30
  else 31

/-- A date. -/
structure Date where
  year : Nat
  month : Nat
  day : Nat
  deriving DecidableEq, Repr, Inhabited

namespace Date

/-- A date of the calendar. -/
def Valid (d : Date) : Prop :=
  1 ≤ d.year ∧ d.year ≤ 9999 ∧ 1 ≤ d.month ∧ d.month ≤ 12 ∧ 1 ≤ d.day
    ∧ d.day ≤ daysInMonth d.year d.month

instance (d : Date) : Decidable d.Valid :=
  inferInstanceAs (Decidable (_ ∧ _))

/-- The days from the first date to the first day of a year. -/
def daysBeforeYear (year : Nat) : Nat :=
  let y := year - 1
  y * 365 + y / 4 - y / 100 + y / 400

/-- The days of a year before a month. -/
def daysBeforeMonth (year : Nat) : Nat → Nat
  | 0 => 0
  | 1 => 0
  | m + 1 => daysBeforeMonth year m + daysInMonth year m

/-- The days from the first date to a date. -/
def days (d : Date) : Nat :=
  daysBeforeYear d.year + daysBeforeMonth d.year d.month + (d.day - 1)

/-- The month and the day of a day counted from the first day of a month. -/
def inMonths (year month n : Nat) : Nat → Date
  | 0 => ⟨year, month, n + 1⟩
  | later + 1 =>
    let length := daysInMonth year month
    if n < length then ⟨year, month, n + 1⟩
    else inMonths year (month + 1) (n - length) later

/-- The date so many days after the first one. Years come in cycles of four hundred, one hundred and
four; the last day of a cycle with a leap day at its end belongs to its last year. -/
def ofDays (n : Nat) : Date :=
  let n400 := n / 146097
  let n := n % 146097
  let n100 := min (n / 36524) 3
  let n := n - n100 * 36524
  let n4 := n / 1461
  let n := n % 1461
  let n1 := min (n / 365) 3
  let n := n - n1 * 365
  inMonths (n400 * 400 + n100 * 100 + n4 * 4 + n1 + 1) 1 n 11

/-- Year, month and day with hyphens between them. -/
def text (d : Date) : List Char :=
  Decimal.padded 4 d.year ++ '-' :: Decimal.padded 2 d.month ++ '-' :: Decimal.padded 2 d.day

end Date

end Chronicle
