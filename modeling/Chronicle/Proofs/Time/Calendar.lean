import Chronicle.Time.Calendar

/-!
# Dates and days

Every number of days before the end of the calendar is the number of a date: `Date.valid_ofDays` and
`Date.days_ofDays`. The year is found by cycles, of which the last year or the last cycle in it may
be longer by a day; the month is found by counting days down.
-/
namespace Chronicle

/-- How many days a year has. -/
def daysInYear (year : Nat) : Nat :=
  if isLeapYear year then 366 else 365

namespace Date

/-- The days of a year are those of its twelve months. -/
private theorem daysBeforeMonth_thirteen (year : Nat) :
    daysBeforeMonth year 13 = daysInYear year := by
  cases h : isLeapYear year <;> simp [daysBeforeMonth, daysInMonth, daysInYear, h]

private theorem daysBeforeMonth_succ (year : Nat) {month : Nat} (hmonth : 1 ≤ month) :
    daysBeforeMonth year (month + 1) = daysBeforeMonth year month + daysInMonth year month := by
  obtain ⟨m, rfl⟩ := Nat.exists_eq_add_of_le' hmonth
  rw [daysBeforeMonth]
  omega

/-- A day is found in the months after it if there are enough of them. -/
private theorem inMonths_spec {year month n later : Nat} (hmonth : 1 ≤ month)
    (hn : daysBeforeMonth year month + n < daysBeforeMonth year (month + later + 1)) :
    ∃ m d, inMonths year month n later = ⟨year, m, d + 1⟩ ∧ 1 ≤ m ∧ m ≤ month + later
      ∧ d < daysInMonth year m ∧ daysBeforeMonth year m + d = daysBeforeMonth year month + n := by
  induction later generalizing month n with
  -- no month is left but this one
  | zero =>
    rw [Nat.add_zero, daysBeforeMonth_succ year hmonth] at hn
    exact ⟨month, n, rfl, hmonth, Nat.le_refl _, by omega, rfl⟩
  | succ later ih =>
    -- the day lies in this month
    by_cases hlength : n < daysInMonth year month
    · rw [inMonths, if_pos hlength]
      exact ⟨month, n, rfl, hmonth, Nat.le_add_right _ _, hlength, rfl⟩
    · -- the day lies in a later month, so the days of this one are taken off
      have hnext := daysBeforeMonth_succ year hmonth
      have hbound : daysBeforeMonth year (month + 1) + (n - daysInMonth year month)
          < daysBeforeMonth year (month + 1 + later + 1) := by
        rw [hnext, show month + 1 + later + 1 = month + (later + 1) + 1 by omega]
        omega
      obtain ⟨m, d, hfound, hm, hle, hd, hdays⟩ := ih (Nat.le_add_left 1 month) hbound
      rw [inMonths, if_neg hlength]
      exact ⟨m, d, hfound, hm, by omega, hd, by omega⟩

/-- The days before a year, by cycles. -/
private theorem daysBeforeYear_cycles (n400 : Nat) {n100 n4 n1 : Nat} (h100 : n100 ≤ 3)
    (h4 : n4 ≤ 24) (h1 : n1 ≤ 3) :
    daysBeforeYear (n400 * 400 + n100 * 100 + n4 * 4 + n1 + 1)
      = n400 * 146097 + n100 * 36524 + n4 * 1461 + n1 * 365 := by
  have hfour : (n400 * 400 + n100 * 100 + n4 * 4 + n1) / 4 = n400 * 100 + n100 * 25 + n4 := by omega
  have hhundred : (n400 * 400 + n100 * 100 + n4 * 4 + n1) / 100 = n400 * 4 + n100 := by omega
  have hfourHundred : (n400 * 400 + n100 * 100 + n4 * 4 + n1) / 400 = n400 := by omega
  simp only [daysBeforeYear, Nat.add_sub_cancel, hfour, hhundred, hfourHundred]
  omega

/-- The year of a day, and the days of that year before it. -/
private theorem exists_year {n : Nat} (hn : n < 3652059) :
    ∃ year rest, ofDays n = inMonths year 1 rest 11 ∧ 1 ≤ year ∧ year ≤ 9999
      ∧ rest < daysInYear year ∧ daysBeforeYear year + rest = n := by
  refine ⟨_, _, rfl, Nat.le_add_left _ _, ?_, ?_, ?_⟩
  · omega
  · -- a day is over only in the last year of four, the last four of a hundred excepted unless they
    -- are the last ones of four hundred
    simp only [daysInYear, isLeapYear, Bool.and_eq_true, Bool.or_eq_true, beq_iff_eq, bne_iff_ne]
    split <;> omega
  · rw [daysBeforeYear_cycles _ (Nat.min_le_right _ _) (by omega) (Nat.min_le_right _ _)]
    omega

/-- Every day of the calendar has a date. -/
theorem valid_ofDays {n : Nat} (hn : n < 3652059) : (ofDays n).Valid := by
  obtain ⟨year, rest, hfound, hyear, hle, hrest, -⟩ := exists_year hn
  have hbound : daysBeforeMonth year 1 + rest < daysBeforeMonth year (1 + 11 + 1) := by
    rw [daysBeforeMonth_thirteen]
    simpa [daysBeforeMonth] using hrest
  obtain ⟨m, d, hdate, hm, hm', hd, -⟩ := inMonths_spec (Nat.le_refl 1) hbound
  rw [hfound, hdate]
  exact ⟨hyear, hle, hm, hm', Nat.le_add_left _ _, hd⟩

/-- The number of a day is read back from its date. -/
theorem days_ofDays {n : Nat} (hn : n < 3652059) : (ofDays n).days = n := by
  obtain ⟨year, rest, hfound, -, -, hrest, hdays⟩ := exists_year hn
  have hbound : daysBeforeMonth year 1 + rest < daysBeforeMonth year (1 + 11 + 1) := by
    rw [daysBeforeMonth_thirteen]
    simpa [daysBeforeMonth] using hrest
  obtain ⟨m, d, hdate, -, -, -, hmonth⟩ := inMonths_spec (Nat.le_refl 1) hbound
  rw [hfound, hdate, days]
  simp only [daysBeforeMonth] at hmonth
  simp only [Nat.add_sub_cancel]
  omega

end Date

end Chronicle
