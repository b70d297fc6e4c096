import Chronicle.Number.Decimal

/-!
# Binary floating-point numbers of 64 bits

A number written with a fraction or an exponent is a binary64 value. `Binary64.ofDecimal` rounds a
decimal to the nearest one, ties to even; `Binary64.text` writes the fewest digits that read back.
All arithmetic is exact on natural numbers.
-/
namespace Chronicle

/-- A binary64 value. A finite one is `± mantissa * 2 ^ exponent`, with `mantissa < 2 ^ 53` and
`-1074 ≤ exponent ≤ 971`; the mantissa has 53 bits unless the exponent is the least one. -/
inductive Binary64 where
  | nan
  | infinity (negative : Bool)
  | finite (negative : Bool) (mantissa : Nat) (exponent : Int)
  deriving DecidableEq, Repr, Inhabited

namespace Binary64

/-- The quotient rounded to the nearest natural number, a half to the even one. -/
def roundDivEven (num den : Nat) : Nat :=
  let q := num / den
  let r := num % den
  if 2 * r < den then q
  else if den < 2 * r then q + 1
  else if q % 2 = 0 then q else q + 1

/-- The number `m * base ^ e`, as numerator and denominator. -/
def scaled (base m : Nat) (e : Int) : Nat × Nat :=
  match e with
  | .ofNat k => (m * Nat.pow base k, 1)
  | .negSucc k => (m, Nat.pow base (k + 1))

/-- The fraction `num / den` scaled by `base ^ (-e)`, as numerator and denominator. -/
def scaleDown (base num den : Nat) (e : Int) : Nat × Nat :=
  match e with
  | .ofNat k => (num, den * Nat.pow base k)
  | .negSucc k => (num * Nat.pow base (k + 1), den)

/-- What mantissas stay below: the least number of 54 bits. -/
def mantissaBound : Nat := 0x20000000000000

/-- The exponent `f` with `2 ^ f ≤ num / den < 2 ^ (f + 1)`, for positive `num` and `den`. -/
def floorLog2 (num den : Nat) : Int :=
  let f : Int := (Nat.log2 num : Int) - (Nat.log2 den : Int)
  let (n, d) := scaleDown 2 num den f
  if d ≤ n then f else f - 1

/-- The nearest value to `± num / den`, ties to even. -/
def ofFraction (negative : Bool) (num den : Nat) : Binary64 :=
  if num = 0 then .finite negative 0 (-1074)
  else
    let e := max (floorLog2 num den - 52) (-1074)
    let (n, d) := scaleDown 2 num den e
    let m := roundDivEven n d
    let (m, e) := if m = mantissaBound then (mantissaBound / 2, e + 1) else (m, e)
    if 971 < e then .infinity negative else .finite negative m e

/-- The nearest value to `± coefficient * 10 ^ exponent`. Coefficients far outside the range of
finite values are settled by their order of magnitude alone. -/
def ofDecimal (negative : Bool) (coefficient : Nat) (exponent : Int) : Binary64 :=
  let order : Int := exponent + (Decimal.digits coefficient).length
  if coefficient = 0 then .finite negative 0 (-1074)
  else if order < -400 then .finite negative 0 (-1074)
  else if 400 < order then .infinity negative
  else
    let (n, d) := scaled 10 coefficient exponent
    ofFraction negative n d

/-- The integer that a value is equal to, if there is one. -/
def toInt? : Binary64 → Option Int
  | .finite negative m e =>
    let (n, d) := scaled 2 m e
    if n % d = 0 then some (if negative then -((n / d : Nat) : Int) else (n / d : Nat)) else none
  | _ => none

/-- Whether a value is neither infinite nor undefined. -/
def isFinite : Binary64 → Bool
  | .finite .. => true
  | _ => false

/-! ### Fewest digits -/

/-- The exponent `p` with `10 ^ (p - 1) ≤ num / den < 10 ^ p`, for positive `num` and `den`,
searched upward from a lower bound. -/
def decimalOrder (num den : Nat) (low : Int) : Nat → Int
  | 0 => low
  | fuel + 1 =>
    let (n, d) := scaleDown 10 num den low
    if n < d then low else decimalOrder num den (low + 1) fuel

/-- The two numbers of `count` digits next to `num / den`, in units of `10 ^ (order - count)`,
the nearer one first, and the even one first when both are equally near. -/
def neighbours (num den : Nat) (order : Int) (count : Nat) : List Nat :=
  let (n, d) := scaleDown 10 num den (order - count)
  let low := n / d
  if roundDivEven n d = low then [low, low + 1] else [low + 1, low]

/-- The fewest digits that read back as the positive value `num / den`, with the exponent of
their first digit plus one: for each count the two neighbours are tried in turn. -/
def shortest (value : Binary64) (num den : Nat) (order : Int) (count : Nat) : Nat → Nat × Int
  | 0 => (0, 0)
  | fuel + 1 =>
    match (neighbours num den order count).find? fun c =>
        ofDecimal false c (order - count) == value with
    | some c => (c, order - count)
    | none => shortest value num den order (count + 1) fuel

/-- The digits of a positive finite value without trailing zeros, and the exponent `p` that makes
the value `0.d₁d₂… * 10 ^ p`. -/
def shortestDigits (m : Nat) (e : Int) : List Char × Int :=
  let (num, den) := scaled 2 m e
  let order := decimalOrder num den (-330) 700
  let (c, unit) := shortest (.finite false m e) num den order 1 17
  let ds := Decimal.digits c
  let trimmed := (ds.reverse.dropWhile (· == '0')).reverse
  (trimmed, unit + ds.length)

/-- Where a decimal text of a value switches to an exponent, and how it is spelled. -/
structure DecimalStyle where
  /-- The greatest `p` of `0.d₁d₂… * 10 ^ p` written positionally. -/
  maxPositional : Int
  /-- The least such `p`. -/
  minPositional : Int
  nan : String
  infinity : String

/-- Digits written out, from `1e-4` up to below `1e16` positionally and else with an exponent of
at least two digits. A positional text always has a digit on both sides of its point. -/
def DecimalStyle.number (f : DecimalStyle) (ds : List Char) (p : Int) : List Char :=
  if f.minPositional ≤ p && p ≤ f.maxPositional then
    match p with
    | .ofNat k =>
      if k = 0 then '0' :: '.' :: ds
      else if ds.length ≤ k then ds ++ List.replicate (k - ds.length) '0' ++ ['.', '0']
      else ds.take k ++ '.' :: ds.drop k
    | .negSucc k => '0' :: '.' :: (List.replicate (k + 1) '0' ++ ds)
  else
    let lead := match ds with
      | [] => ['0']
      | [d] => [d]
      | d :: rest => d :: '.' :: rest
    let exponent := p - 1
    lead ++ 'e' :: (if exponent < 0 then '-' else '+') :: Decimal.padded 2 exponent.natAbs

/-- The text of a value. -/
def DecimalStyle.text (f : DecimalStyle) : Binary64 → List Char
  | .nan => f.nan.toList
  | .infinity negative => (if negative then ['-'] else []) ++ f.infinity.toList
  | .finite negative m e =>
    let (ds, p) := if m = 0 then (['0'], 1) else shortestDigits m e
    (if negative then ['-'] else []) ++ f.number ds p

/-- Positional from `0.0001` to below `10 ^ 16`; the words for the other values are given. -/
def decimalStyle (nan infinity : String) : DecimalStyle :=
  ⟨16, -3, nan, infinity⟩

end Binary64

end Chronicle
