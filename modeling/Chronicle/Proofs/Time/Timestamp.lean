import Chronicle.Proofs.Time.Calendar
import Chronicle.Time.Timestamp
import Mathlib.Algebra.Group.Nat.Defs
import Mathlib.Algebra.Order.Group.Unbundled.Int
import Mathlib.Data.List.TakeWhile

/-!
# Timestamps read back

A moment of the calendar is read back from its text in universal time: `Timestamp.ofText?_utcText`.
Numbers are written in a fixed width, so each of them is read without looking at what follows.
-/
namespace Chronicle

namespace Decimal

/-- A number has no more digits than a power of ten above it says. -/
private theorem length_digits_le {width n : Nat} (hwidth : 0 < width) (hn : n < 10 ^ width) :
    (digits n).length ≤ width := by
  induction n using digits.induct generalizing width with
  -- one digit
  | case1 n h =>
    rw [digits, if_pos h]
    exact hwidth
  | case2 n h ih =>
    obtain ⟨k, rfl⟩ := Nat.exists_eq_add_of_le' hwidth
    -- a number of two digits or more does not fit in one place
    have hk : 0 < k := by
      rcases Nat.eq_zero_or_pos k with rfl | hk
      · exact absurd hn h
      · exact hk
    rw [Nat.pow_succ] at hn
    rw [digits, if_neg h, List.length_append, List.length_singleton]
    exact Nat.succ_le_succ (ih hk (by omega))

private theorem length_padded {width n : Nat} (hwidth : 0 < width) (hn : n < 10 ^ width) :
    (padded width n).length = width := by
  rw [padded, List.length_append, List.length_replicate,
    Nat.sub_add_cancel (length_digits_le hwidth hn)]

private theorem isDigit_of_mem_padded {width n : Nat} {c : Char} (hc : c ∈ padded width n) :
    c.isDigit = true := by
  rcases List.mem_append.1 hc with hc | hc
  · rw [List.eq_of_mem_replicate hc]
    rfl
  · exact isDigit_of_mem_digits hc

/-- Zeros in front do not count. -/
private theorem ofDigits_padded (width n : Nat) : ofDigits (padded width n) = n := by
  have hzeros : ∀ k, ofDigits (List.replicate k '0' ++ digits n) = ofDigits (digits n) := by
    intro k
    induction k with
    | zero => rfl
    | succ k ih => exact ih
  rw [padded, hzeros, ofDigits_digits]

end Decimal

namespace Timestamp

private theorem digits?_padded {width n : Nat} (hwidth : 0 < width) (hn : n < 10 ^ width)
    (rest : List Char) : digits? width (Decimal.padded width n ++ rest) = some (n, rest) := by
  have hlength := Decimal.length_padded hwidth hn
  have htake : (Decimal.padded width n ++ rest).take width = Decimal.padded width n :=
    List.take_left' hlength
  have hdrop : (Decimal.padded width n ++ rest).drop width = rest := List.drop_left' hlength
  have hdigits : (Decimal.padded width n).all Char.isDigit = true :=
    List.all_eq_true.2 fun _ => Decimal.isDigit_of_mem_padded
  simp [digits?, htake, hdrop, hlength, hdigits, Decimal.ofDigits_padded]

/-- Six digits after a point are microseconds. -/
private theorem fraction_padded {micros : Nat} (hmicros : micros < 1000000) :
    fraction ('.' :: Decimal.padded 6 micros ++ ['Z']) = (micros, ['Z']) := by
  have hall : ∀ c ∈ Decimal.padded 6 micros, c.isDigit = true :=
    fun _ => Decimal.isDigit_of_mem_padded
  have hlength := Decimal.length_padded (by decide : 0 < 6) hmicros
  -- the digits of the fraction are all six of them
  have hdigits : (Decimal.padded 6 micros ++ ['Z']).takeWhile Char.isDigit
      = Decimal.padded 6 micros := by
    rw [List.takeWhile_append_of_pos hall]
    exact List.append_nil _
  have hrest : (Decimal.padded 6 micros ++ ['Z']).dropWhile Char.isDigit = ['Z'] := by
    rw [List.dropWhile_append_of_pos hall]
    rfl
  simp only [List.cons_append, fraction, hdigits, hrest, List.take_left' hlength,
    Decimal.ofDigits_padded]

/-- A time of day is read part by part. -/
private theorem timeOfDay?_of_parts {cs rest rest' rest'' end_ : List Char}
    {hour minute second micros : Nat}
    (hhour : digits? 2 cs = some (hour, ':' :: rest))
    (hminute : digits? 2 rest = some (minute, ':' :: rest'))
    (hsecond : digits? 2 rest' = some (second, rest''))
    (hfraction : fraction rest'' = (micros, end_)) :
    timeOfDay? cs
      = some (hour * 3600 * 1000000 + minute * 60 * 1000000 + second * 1000000 + micros, end_) := by
  -- the parts are taken one by one: a comparison of the whole would unfold the products
  refine Option.bind_eq_some_iff.2 ⟨(hour, ':' :: rest), hhour, ?_⟩
  refine Option.bind_eq_some_iff.2 ⟨(minute, ':' :: rest'), hminute, ?_⟩
  refine Option.bind_eq_some_iff.2 ⟨(second, rest''), hsecond, ?_⟩
  simp only [hfraction]
  rfl

/-- A time of day is read back up to the letter for universal time. -/
private theorem timeOfDay?_timeText {micros : Nat} (hmicros : micros < 86400 * 1000000) :
    timeOfDay? (timeText micros ++ ['Z']) = some (micros, ['Z']) := by
  have hfraction : fraction ((if micros % 1000000 = 0 then []
      else '.' :: Decimal.padded 6 (micros % 1000000)) ++ ['Z']) = (micros % 1000000, ['Z']) := by
    -- a fraction of zero is not written
    split
    next hzero => rw [hzero]; rfl
    next => exact fraction_padded (Nat.mod_lt _ (by decide))
  simp only [timeText, List.append_assoc, List.cons_append]
  rw [timeOfDay?_of_parts (digits?_padded (by decide) (by omega) _)
    (digits?_padded (by decide) (by omega) _) (digits?_padded (by decide) (by omega) _) hfraction]
  congr 2
  omega

/-- The text of a moment in universal time gives that moment. -/
theorem ofText?_utcText {u : Micros} (hlow : 0 ≤ u) (hhigh : u < calendarEnd) :
    ofText? (utcText u) = some ⟨u, 0⟩ := by
  obtain ⟨n, rfl⟩ := Int.eq_ofNat_of_zero_le hlow
  have hhigh' : (n : Int) < 3652059 * 86400000000 := hhigh
  have hday : ((n : Int) / dayLength).toNat = n / 86400000000 := by
    simp only [dayLength]
    omega
  have htime : ((n : Int) % dayLength).toNat = n % 86400000000 := by
    simp only [dayLength]
    omega
  -- the day is in the calendar, so it has a date
  have hdays : n / 86400000000 < 3652059 := by omega
  have hvalid := Date.valid_ofDays hdays
  have hback := Date.days_ofDays hdays
  rw [utcText, hday, htime]
  generalize Date.ofDays (n / 86400000000) = date at hvalid hback
  obtain ⟨hyear, hyear', hmonth, hmonth', hdate, hdate'⟩ := id hvalid
  -- a day of the month fits in two digits
  have hlength : daysInMonth date.year date.month ≤ 31 := by
    unfold daysInMonth
    split
    · split <;> omega
    · split <;> omega
  have hyears := @digits?_padded 4 date.year (by decide) (by omega)
  have hmonths := @digits?_padded 2 date.month (by decide) (by omega)
  have hdates := @digits?_padded 2 date.day (by decide) (by omega)
  have hclock := @timeOfDay?_timeText (n % 86400000000) (Nat.mod_lt _ (by decide))
  simp only [ofText?, Date.text, List.append_assoc, List.cons_append, hyears, hmonths, hdates,
    Option.bind_eq_bind, Option.bind_some, List.drop_one, List.tail_cons, hclock, offset?,
    if_pos hvalid, hback]
  -- the days and what is left of the last one make up the whole
  have hsum :
      ((n / 86400000000 : Nat) : Int) * 86400000000 + ((n % 86400000000 : Nat) : Int) = n := by
    omega
  exact congrArg (fun wall => some (Timestamp.mk wall 0)) hsum

end Timestamp

end Chronicle
