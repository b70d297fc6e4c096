/-!
# Decimal digits

Natural numbers and integers in decimal, most significant digit first and without leading zeros.
`ofDigits_digits` reads a number back; `digits_ne_nil` and `isDigit_of_mem_digits` say what shape
the digits have.
-/
namespace Chronicle.Decimal

/-- The digit for a number below ten. -/
def digitChar (d : Nat) : Char :=
  Char.ofNat (48 + d)

/-- The digits of a number. -/
def digits (n : Nat) : List Char :=
  if n < 10 then [digitChar n] else digits (n / 10) ++ [digitChar (n % 10)]

/-- The number that a list of digits stands for. -/
def ofDigits (cs : List Char) : Nat :=
  cs.foldl (fun n c => n * 10 + (c.toNat - 48)) 0

/-- An integer: its digits, after a minus sign when it is negative. -/
def ofInt : Int → List Char
  | .ofNat n => digits n
  | .negSucc n => '-' :: digits (n + 1)

/-- A number in a fixed width, filled up with zeros on the left. -/
def padded (width n : Nat) : List Char :=
  List.replicate (width - (digits n).length) '0' ++ digits n

/-- The most digits that a number may have where a text is read. -/
def maxDigits : Nat := 4300

/-- What is said of a number with more digits than that. -/
def tooLong (count : Nat) : String :=
  "Exceeds the limit (" ++ String.ofList (digits maxDigits)
    ++ " digits) for integer string conversion: value has " ++ String.ofList (digits count)
    ++ " digits; use sys.set_int_max_str_digits() to increase the limit"

/-! ### Digits read back -/

theorem digits_ne_nil (n : Nat) : digits n ≠ [] := by
  rw [digits]; split <;> simp

theorem toNat_digitChar {d : Nat} (h : d < 10) : (digitChar d).toNat = 48 + d := by
  match d with
  | 0 | 1 | 2 | 3 | 4 | 5 | 6 | 7 | 8 | 9 => rfl
  | _ + 10 => omega

private theorem ofDigits_append_singleton (cs : List Char) (c : Char) :
    ofDigits (cs ++ [c]) = ofDigits cs * 10 + (c.toNat - 48) := by
  simp [ofDigits, List.foldl_append]

theorem ofDigits_digits (n : Nat) : ofDigits (digits n) = n := by
  induction n using digits.induct with
  | case1 n h =>
    rw [digits, if_pos h]
    simp [ofDigits, toNat_digitChar h]
  | case2 n h ih =>
    rw [digits, if_neg h, ofDigits_append_singleton, ih, toNat_digitChar (Nat.mod_lt _ (by omega))]
    omega

private theorem isDigit_digitChar {d : Nat} (h : d < 10) : (digitChar d).isDigit = true := by
  match d with
  | 0 | 1 | 2 | 3 | 4 | 5 | 6 | 7 | 8 | 9 => rfl
  | _ + 10 => omega

theorem isDigit_of_mem_digits {n : Nat} {c : Char} (h : c ∈ digits n) : c.isDigit = true := by
  induction n using digits.induct with
  | case1 n hn =>
    rw [digits, if_pos hn, List.mem_singleton] at h
    exact h ▸ isDigit_digitChar hn
  | case2 n hn ih =>
    rw [digits, if_neg hn, List.mem_append, List.mem_singleton] at h
    exact h.elim ih fun h => h ▸ isDigit_digitChar (Nat.mod_lt _ (by omega))

theorem digits_injective {m n : Nat} (h : digits m = digits n) : m = n := by
  rw [← ofDigits_digits m, h, ofDigits_digits]

end Chronicle.Decimal
