import Chronicle.Number.Decimal
import Chronicle.Text.Hex

/-!
# Octets that are no text

What a reader of encoded text finds wrong: which octets, where, and why.
-/
namespace Chronicle

/-- Why octets do not decode. -/
inductive OctetFlaw where
  | invalidStart | invalidContinuation | unexpectedEnd | notAscii
  | truncated | illegalEncoding | illegalSurrogate
  deriving DecidableEq, Repr, Inhabited

/-- The words for a flaw. -/
def OctetFlaw.reason : OctetFlaw → String
  | .invalidStart => "invalid start byte"
  | .invalidContinuation => "invalid continuation byte"
  | .unexpectedEnd => "unexpected end of data"
  | .notAscii => "ordinal not in range(128)"
  | .truncated => "truncated data"
  | .illegalEncoding => "illegal encoding"
  | .illegalSurrogate => "illegal UTF-16 surrogate"

/-- A place where octets do not decode: the first octet, its position, and how many are affected. -/
structure OctetFault where
  octet : UInt8
  start : Nat
  count : Nat
  flaw : OctetFlaw
  deriving DecidableEq, Repr, Inhabited

/-- A fault as the named encoding reports it. -/
def OctetFault.message (f : OctetFault) (encoding : String) : String :=
  let position := String.ofList (Decimal.digits f.start)
  let place :=
    if f.count = 1 then
      "byte 0x" ++ String.ofList (Text.hexDigits 2 f.octet.toNat) ++ " in position " ++ position
    else
      "bytes in position " ++ position ++ "-"
        ++ String.ofList (Decimal.digits (f.start + f.count - 1))
  "'" ++ encoding ++ "' codec can't decode " ++ place ++ ": " ++ f.flaw.reason

end Chronicle
