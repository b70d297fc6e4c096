import Chronicle.Number.Numeral
import Chronicle.Text.Case
import Chronicle.Text.Split
import Chronicle.Yaml.Fault

/-!
# Numbers as scalars

A number may have underscores anywhere, which do not count, and a sign. An integer may be written in
several bases. A decimal number may have parts between colons, each of which counts sixty times the
next one; where they are floating-point numbers, they are added up from the last one on.
-/
namespace Chronicle.Yaml

/-! ### Integers -/

/-- A part of a number as an integer in a base. -/
def integerPart (base : Nat) (text : List Char) : Except YamlFault Int :=
  (Numeral.integer base text).mapError fun
    | .tooLong digits => .longNumber digits
    | .unreadable => .noInteger base text

/-- The number whose parts count sixty of the next one each. -/
def sixtieths (parts : List Int) : Int :=
  parts.foldl (fun n part => n * 60 + part) 0

/-- A number without underscores, and whether it has a minus sign. -/
def withSign (cs : List Char) : Bool × List Char :=
  Numeral.unsigned (cs.filter (· != '_'))

/-- The base of an integer without underscores and sign, and the parts that it has in that base:
those of a decimal number stand between colons. -/
def integerParts (body : List Char) : Nat × List (List Char) :=
  match body with
  | '0' :: 'b' :: digits => (2, [digits])
  | '0' :: 'x' :: digits => (16, [digits])
  | '0' :: _ => (8, [body])
  | _ => (10, Text.split ':' body)

/-- An integer without underscores and sign. -/
def unsignedInteger (body : List Char) : Except YamlFault Int :=
  if body.isEmpty then .error .emptyNumber
  else
    let (base, parts) := integerParts body
    (parts.mapM (integerPart base)).map sixtieths

/-- The integer of a scalar. -/
def intOf (cs : List Char) : Except YamlFault Int :=
  let (negative, body) := withSign cs
  (unsignedInteger body).map fun n => if negative then -n else n

/-! ### Floating-point numbers -/

/-- The numerator and the denominator of a finite value, the numerator having its sign. -/
def fractionOf (negative : Bool) (m : Nat) (e : Int) : Int × Nat :=
  let (n, d) := Binary64.scaled 2 m e
  (if negative then -(n : Int) else n, d)

/-- The value of a fraction. -/
def ofFraction (n : Int) (d : Nat) : Binary64 :=
  .ofFraction (n < 0) n.natAbs d

/-- The sum of values, which is a positive zero where it is zero. -/
def add : Binary64 → Binary64 → Binary64
  | .finite s m e, .finite t k f =>
    let (n, d) := fractionOf s m e
    let (p, q) := fractionOf t k f
    ofFraction (n * q + p * d) (d * q)
  | .infinity s, .infinity t => if s = t then .infinity s else .nan
  | .nan, _ | _, .nan => .nan
  | .infinity s, _ | _, .infinity s => .infinity s

/-- The product of a value and a finite one that is positive. -/
def times : Binary64 → Binary64 → Binary64
  | .finite s m e, .finite t k f =>
    let (n, d) := fractionOf s m e
    let (p, q) := fractionOf t k f
    ofFraction (n * p) (d * q)
  | x, _ => x

/-- What one counts that has a number of parts after it. -/
def sixtyTo (n : Nat) : Binary64 :=
  .ofFraction false (Nat.pow 60 n) 1

/-- The sum of parts, the last of which counts once and each one before it sixty times the next, as
long as that is finite. -/
def floatSixtieths (parts : List Binary64) : Except YamlFault Binary64 :=
  if (sixtyTo (parts.length - 1)).isFinite then
    .ok (parts.reverse.zipIdx.foldl (fun sum (part, n) => add sum (times part (sixtyTo n)))
      (.finite false 0 (-1074)))
  else .error .manySixtieths

/-- A value with its sign turned. -/
def negate : Binary64 → Binary64
  | .nan => .nan
  | .infinity negative => .infinity !negative
  | .finite negative m e => .finite (!negative) m e

/-- A part of a number as a floating-point number. -/
def floatPart (text : List Char) : Except YamlFault Binary64 :=
  match Numeral.float? text with
  | some x => .ok x
  | none => .error (.noFloat text)

/-- A floating-point number without underscores and sign, in lower case. -/
def unsignedFloat (body : List Char) : Except YamlFault Binary64 :=
  match String.ofList body with
  | ".inf" => .ok (.infinity false)
  | ".nan" => .ok .nan
  | _ =>
    if body.contains ':' then (Text.split ':' body).mapM floatPart >>= floatSixtieths
    else floatPart body

/-- The floating-point number of a scalar. -/
def floatOf (cs : List Char) : Except YamlFault Binary64 :=
  if cs.all (· == '_') then .error .emptyNumber
  else
    let (negative, body) := withSign (Text.lowerCase cs)
    (unsignedFloat body).map fun x => if negative then negate x else x

end Chronicle.Yaml
