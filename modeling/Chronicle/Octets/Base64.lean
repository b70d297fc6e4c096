/-!
# Base64

Octets in groups of three as four letters each; an incomplete last group is filled up with `=`.
`decode` is strict: nothing but letters, no padding in the middle, no incomplete group. It does
accept further `=` after the last complete group, and it drops the unused low bits of a padded one.
`decodeLoosely` passes over everything that is no letter.
-/
namespace Chronicle.Base64

/-- The letter for a number below sixty-four. -/
def letter (n : Nat) : Char :=
  if n < 26 then Char.ofNat (65 + n)
  else if n < 52 then Char.ofNat (71 + n)
  else if n < 62 then Char.ofNat (n - 4)
  else if n = 62 then '+'
  else '/'

/-- The number that a letter stands for. -/
def value? (c : Char) : Option Nat :=
  let n := c.toNat
  if 65 ≤ n ∧ n ≤ 90 then some (n - 65)
  else if 97 ≤ n ∧ n ≤ 122 then some (n - 71)
  else if 48 ≤ n ∧ n ≤ 57 then some (n + 4)
  else if c = '+' then some 62
  else if c = '/' then some 63
  else none

/-- Octets as letters. -/
def encode : List UInt8 → List Char
  | [] => []
  | [a] =>
    let a := a.toNat
    [letter (a / 4), letter (a % 4 * 16), '=', '=']
  | [a, b] =>
    let a := a.toNat
    let b := b.toNat
    [letter (a / 4), letter (a % 4 * 16 + b / 16), letter (b % 16 * 4), '=']
  | a :: b :: c :: rest =>
    let a := a.toNat
    let b := b.toNat
    let c := c.toNat
    letter (a / 4) :: letter (a % 4 * 16 + b / 16) :: letter (b % 16 * 4 + c / 64)
      :: letter (c % 64) :: encode rest

/-- The groups of a text whose first character is no padding. -/
def decodeGroups : List Char → Option (List UInt8)
  | [] => some []
  | '=' :: rest => if rest.all (· == '=') then some [] else none
  | [a, b, '=', '='] => do
    let a ← value? a
    let b ← value? b
    return [UInt8.ofNat (a * 4 + b / 16)]
  | [a, b, c, '='] => do
    let a ← value? a
    let b ← value? b
    let c ← value? c
    return [UInt8.ofNat (a * 4 + b / 16), UInt8.ofNat (b % 16 * 16 + c / 4)]
  | a :: b :: c :: d :: rest => do
    let a ← value? a
    let b ← value? b
    let c ← value? c
    let d ← value? d
    let more ← decodeGroups rest
    return UInt8.ofNat (a * 4 + b / 16) :: UInt8.ofNat (b % 16 * 16 + c / 4)
      :: UInt8.ofNat (c % 4 * 64 + d) :: more
  | _ => none

/-- The octets that a text of letters stands for. -/
def decode (s : List Char) : Option (List UInt8) :=
  if s.head? = some '=' then none else decodeGroups s

/-- The octets that the letters in a text stand for, up to the padding that fills a group. So many
letters of the open group have been read, the last of which is given, and so many paddings after
them. -/
def looseGroups (count last pads : Nat) : List Char → Option (List UInt8)
  | [] => if count = 0 then some [] else none
  | '=' :: rest =>
    if count < 2 then looseGroups count last pads rest
    else if 4 ≤ count + pads + 1 then some []
    else looseGroups count last (pads + 1) rest
  | c :: rest =>
    match value? c with
    | none => looseGroups count last pads rest
    | some n =>
      let more := looseGroups ((count + 1) % 4) n 0 rest
      match count with
      | 0 => more
      | 1 => more.map (UInt8.ofNat (last * 4 + n / 16) :: ·)
      | 2 => more.map (UInt8.ofNat (last * 16 + n / 4) :: ·)
      | _ => more.map (UInt8.ofNat (last * 64 + n) :: ·)

/-- The octets that the letters in a text stand for. -/
def decodeLoosely (s : List Char) : Option (List UInt8) :=
  looseGroups 0 0 0 s

end Chronicle.Base64
