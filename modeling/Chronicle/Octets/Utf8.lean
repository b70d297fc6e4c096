import Chronicle.Octets.Fault

/-!
# UTF-8

Each character as one to four octets. `decode` takes the shortest form of a character only and no
surrogates; a fault names the octets from the start of the character up to the one that breaks it.

`Utf8.decodeBlocks` reads octets that arrive in blocks. It matters only for octets that do not
decode: all text up to the block with the fault is still delivered, and positions count from the
first octet that was pending when that block arrived.
-/
namespace Chronicle.Utf8

/-- The octets of a character. -/
def encodeChar (c : Char) : List UInt8 :=
  let n := c.toNat
  if n < 0x80 then [UInt8.ofNat n]
  else if n < 0x800 then [UInt8.ofNat (0xC0 + n / 0x40), UInt8.ofNat (0x80 + n % 0x40)]
  else if n < 0x10000 then
    [UInt8.ofNat (0xE0 + n / 0x1000), UInt8.ofNat (0x80 + n / 0x40 % 0x40),
      UInt8.ofNat (0x80 + n % 0x40)]
  else
    [UInt8.ofNat (0xF0 + n / 0x40000), UInt8.ofNat (0x80 + n / 0x1000 % 0x40),
      UInt8.ofNat (0x80 + n / 0x40 % 0x40), UInt8.ofNat (0x80 + n % 0x40)]

/-- The octets of a text. -/
def encode (s : List Char) : List UInt8 :=
  s.flatMap encodeChar

/-- An octet that continues a character. -/
def isTail (b : UInt8) : Bool :=
  0x80 ≤ b && b < 0xC0

/-- Whether `b` may follow the first octet `a` of a character of three or four octets: longer forms
than needed, surrogates and numbers above U+10FFFF are ruled out here. -/
def isSecond (a b : UInt8) : Bool :=
  isTail b && (a != 0xE0 || 0xA0 ≤ b) && (a != 0xED || b < 0xA0) && (a != 0xF0 || 0x90 ≤ b)
    && (a != 0xF4 || b < 0x90)

/-- The six bits that a tail octet carries. -/
def tailBits (b : UInt8) : Nat :=
  b.toNat - 0x80

/-- The text of octets whose first one has position `pos`. -/
def decodeFrom (pos : Nat) : List UInt8 → Except OctetFault (List Char)
  | [] => .ok []
  | a :: t =>
    if a < 0x80 then
      (Char.ofNat a.toNat :: ·) <$> decodeFrom (pos + 1) t
    else if a < 0xC2 || 0xF5 ≤ a then .error ⟨a, pos, 1, .invalidStart⟩
    else if a < 0xE0 then
      match t with
      | [] => .error ⟨a, pos, 1, .unexpectedEnd⟩
      | b :: t =>
        if isTail b then
          (Char.ofNat ((a.toNat - 0xC0) * 0x40 + tailBits b) :: ·) <$> decodeFrom (pos + 2) t
        else .error ⟨a, pos, 1, .invalidContinuation⟩
    else if a < 0xF0 then
      match t with
      | [] => .error ⟨a, pos, 1, .unexpectedEnd⟩
      | b :: t =>
        if isSecond a b then
          match t with
          | [] => .error ⟨a, pos, 2, .unexpectedEnd⟩
          | c :: t =>
            if isTail c then
              (Char.ofNat ((a.toNat - 0xE0) * 0x1000 + tailBits b * 0x40 + tailBits c) :: ·)
                <$> decodeFrom (pos + 3) t
            else .error ⟨a, pos, 2, .invalidContinuation⟩
        else .error ⟨a, pos, 1, .invalidContinuation⟩
    else
      match t with
      | [] => .error ⟨a, pos, 1, .unexpectedEnd⟩
      | b :: t =>
        if isSecond a b then
          match t with
          | [] => .error ⟨a, pos, 2, .unexpectedEnd⟩
          | c :: t =>
            if isTail c then
              match t with
              | [] => .error ⟨a, pos, 3, .unexpectedEnd⟩
              | d :: t =>
                if isTail d then
                  (Char.ofNat ((a.toNat - 0xF0) * 0x40000 + tailBits b * 0x1000
                    + tailBits c * 0x40 + tailBits d) :: ·) <$> decodeFrom (pos + 4) t
                else .error ⟨a, pos, 3, .invalidContinuation⟩
            else .error ⟨a, pos, 2, .invalidContinuation⟩
        else .error ⟨a, pos, 1, .invalidContinuation⟩

/-- The text of octets. -/
def decode (bs : List UInt8) : Except OctetFault (List Char) :=
  decodeFrom 0 bs

/-! ### Octets in blocks -/

/-- The octets in blocks of `size`, the last one possibly shorter. -/
def blocks (size : Nat) (bs : List UInt8) : Nat → List (List UInt8)
  | 0 => []
  | fuel + 1 => if bs.isEmpty then [] else bs.take size :: blocks size (bs.drop size) fuel

/-- Whether a fault at the end of what has arrived may still turn out to be the beginning of a
character: the octets end too early, or in a surrogate that lacks its third octet. -/
def isPending (bs : List UInt8) (f : OctetFault) : Bool :=
  f.flaw == .unexpectedEnd ||
    (match bs.drop f.start with
      | [a, b] => a == 0xED && 0xA0 ≤ b && b < 0xC0
      | _ => false)

/-- The text delivered before the first fault, and the fault, of octets that arrive in blocks;
`pending` are the octets of an unfinished character. -/
def decodeBlocks (pending : List UInt8) : List (List UInt8) → List Char × Option OctetFault
  | [] =>
    match decode pending with
    | .ok s => (s, none)
    | .error f => ([], some f)
  | block :: rest =>
    let bs := pending ++ block
    match decode bs with
    | .ok s =>
      let (more, f) := decodeBlocks [] rest
      (s ++ more, f)
    | .error f =>
      if isPending bs f then
        let s := match decode (bs.take f.start) with
          | .ok s => s
          | .error _ => []
        let (more, f) := decodeBlocks (bs.drop f.start) rest
        (s ++ more, f)
      else ([], some f)

end Chronicle.Utf8
