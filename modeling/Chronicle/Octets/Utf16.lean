import Chronicle.Octets.Fault

/-!
# UTF-16

Characters as one or two units of sixteen bits, in either order of octets. `decode` accepts pairs
of surrogates only; a fault names the octets of the unit that stands alone.
-/
namespace Chronicle.Utf16

/-- Which octet of a unit comes first. -/
inductive ByteOrder where
  | little | big
  deriving DecidableEq, Repr, Inhabited

/-- The octets of a unit. -/
def ByteOrder.octets : ByteOrder → Nat → List UInt8
  | .little, u => [UInt8.ofNat (u % 256), UInt8.ofNat (u / 256)]
  | .big, u => [UInt8.ofNat (u / 256), UInt8.ofNat (u % 256)]

/-- The unit that two octets form. -/
def ByteOrder.unit : ByteOrder → UInt8 → UInt8 → Nat
  | .little, a, b => b.toNat * 256 + a.toNat
  | .big, a, b => a.toNat * 256 + b.toNat

/-- The units of a character. -/
def units (c : Char) : List Nat :=
  let n := c.toNat
  if n < 0x10000 then [n]
  else [0xD800 + (n - 0x10000) / 0x400, 0xDC00 + (n - 0x10000) % 0x400]

/-- The octets of a text. -/
def encode (order : ByteOrder) (s : List Char) : List UInt8 :=
  s.flatMap fun c => (units c).flatMap order.octets

/-- The text of octets whose first one has position `pos`. -/
def decodeFrom (order : ByteOrder) (pos : Nat) : List UInt8 → Except OctetFault (List Char)
  | [] => .ok []
  | [a] => .error ⟨a, pos, 1, .truncated⟩
  | a :: b :: t =>
    let u := order.unit a b
    if u < 0xD800 || 0xE000 ≤ u then
      (Char.ofNat u :: ·) <$> decodeFrom order (pos + 2) t
    else if 0xDC00 ≤ u then .error ⟨a, pos, 2, .illegalEncoding⟩
    else
      match t with
      | [] => .error ⟨a, pos, 2, .unexpectedEnd⟩
      | [_] => .error ⟨a, pos, 3, .unexpectedEnd⟩
      | c :: d :: t =>
        let v := order.unit c d
        if 0xDC00 ≤ v && v < 0xE000 then
          (Char.ofNat (0x10000 + (u - 0xD800) * 0x400 + (v - 0xDC00)) :: ·)
            <$> decodeFrom order (pos + 4) t
        else .error ⟨a, pos, 2, .illegalSurrogate⟩

/-- The order that a byte order mark at the start gives; without one it is little. -/
def markedOrder : List UInt8 → ByteOrder × Bool
  | 0xFF :: 0xFE :: _ => (.little, true)
  | 0xFE :: 0xFF :: _ => (.big, true)
  | _ => (.little, false)

end Chronicle.Utf16
