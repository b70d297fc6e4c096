import Chronicle.Octets.Utf8
import Chronicle.Octets.Utf16

/-!
# Character sets by name

An attachment can name the character set that its octets are text in. Names are compared without
regard to case and to the punctuation between their parts. `Charset.encode` and `Charset.decode`
turn text into octets and back.
-/
namespace Chronicle

/-- The character sets in which octets are written as text. -/
inductive Charset where
  | ascii | latin1 | utf8
  /-- UTF-8 after a byte order mark. -/
  | utf8Signed
  /-- UTF-16 after a byte order mark. -/
  | utf16
  | utf16le | utf16be
  deriving DecidableEq, Repr, Inhabited

/-- What a name stands for. -/
inductive CharsetName where
  | charset (c : Charset)
  /-- A known encoding between octets, or between texts, but not between the two. -/
  | notText
  | unknown
  /-- A name with a NUL in it cannot be looked up at all. -/
  | malformed
  deriving DecidableEq, Repr, Inhabited

namespace Charset

/-- A name as it is looked up: runs of ASCII letters, digits and points in lower case, joined by
single underscores. -/
def normalName (name : List Char) : List Char :=
  let parts := name.map (fun c => if c.isAlphanum || c == '.' then c.toLower else ' ')
  let trimmed := ((parts.dropWhile (· == ' ')).reverse.dropWhile (· == ' ')).reverse
  go trimmed
where
  go : List Char → List Char
    | [] => []
    | ' ' :: ' ' :: t => go (' ' :: t)
    | ' ' :: t => '_' :: go t
    | c :: t => c :: go t

/-- The own names of encodings. -/
def ownNames : List (String × CharsetName) :=
  [("ascii", .charset .ascii), ("latin_1", .charset .latin1), ("iso8859_1", .charset .latin1),
    ("utf_8", .charset .utf8), ("utf_8_sig", .charset .utf8Signed), ("utf_16", .charset .utf16),
    ("utf_16_le", .charset .utf16le), ("utf_16_be", .charset .utf16be)]
  ++ (["base64_codec", "bz2_codec", "hex_codec", "quopri_codec", "rot_13", "uu_codec",
      "zlib_codec"].map (·, .notText))

/-- Other names of encodings. -/
def otherNames : List (String × CharsetName) :=
  (["us_ascii", "646", "ansi_x3.4_1968", "ansi_x3_4_1968", "ansi_x3.4_1986", "cp367", "csascii",
      "ibm367", "iso646_us", "iso_646.irv_1991", "iso_ir_6", "us"].map (·, .charset .ascii))
  ++ (["latin1", "latin", "l1", "iso_8859_1", "iso8859_1", "iso8859", "8859", "cp819",
      "csisolatin1", "ibm819", "iso_8859_1_1987", "iso_ir_100"].map (·, .charset .latin1))
  ++ (["utf8", "u8", "utf", "utf8_ucs2", "utf8_ucs4", "cp65001"].map (·, .charset .utf8))
  ++ (["utf16", "u16"].map (·, .charset .utf16))
  ++ (["utf_16le", "unicodelittleunmarked"].map (·, .charset .utf16le))
  ++ (["utf_16be", "unicodebigunmarked"].map (·, .charset .utf16be))
  ++ (["base64", "base_64", "bz2", "hex", "quopri", "quoted_printable", "quotedprintable", "rot13",
      "uu", "zip", "zlib"].map (·, .notText))

/-- The encoding with a normal name. Where points tell no other name apart, they are read as
underscores; no encoding's own name has any. -/
def lookup (normal : List Char) : Option CharsetName :=
  let pointless := normal.map fun c => if c == '.' then '_' else c
  otherNames.lookup (String.ofList normal) <|> otherNames.lookup (String.ofList pointless)
    <|> ownNames.lookup (String.ofList normal)

/-- What a name stands for. -/
def ofName (name : String) : CharsetName :=
  if name.toList.contains '\x00' then .malformed
  else (lookup (normalName name.toList)).getD .unknown

/-- The name under which a character set reports octets that are no text. -/
def reportName : Charset → List UInt8 → String
  | .ascii, _ => "ascii"
  | .latin1, _ => "latin-1"
  | .utf8, _ | .utf8Signed, _ => "utf-8"
  | .utf16le, _ => "utf-16-le"
  | .utf16be, _ => "utf-16-be"
  | .utf16, bs => if (Utf16.markedOrder bs).1 = .big then "utf-16-be" else "utf-16-le"

/-- The byte order mark in UTF-8. -/
def utf8Mark : List UInt8 :=
  [0xEF, 0xBB, 0xBF]

/-- Text in octets, one per character below `limit`. -/
def encodeSingle (limit : Nat) : List Char → Option (List UInt8)
  | [] => some []
  | c :: s =>
    if c.toNat < limit then (UInt8.ofNat c.toNat :: ·) <$> encodeSingle limit s else none

/-- The text of octets that are one ASCII character each. -/
def decodeAscii (pos : Nat) : List UInt8 → Except OctetFault (List Char)
  | [] => .ok []
  | b :: t =>
    if b < 0x80 then (Char.ofNat b.toNat :: ·) <$> decodeAscii (pos + 1) t
    else .error ⟨b, pos, 1, .notAscii⟩

/-- The octets of a text, if the character set has all its characters. -/
def encode : Charset → List Char → Option (List UInt8)
  | .ascii, s => encodeSingle 0x80 s
  | .latin1, s => encodeSingle 0x100 s
  | .utf8, s => some (Utf8.encode s)
  | .utf8Signed, s => some (utf8Mark ++ Utf8.encode s)
  | .utf16, s => some (Utf16.encode .little ('\uFEFF' :: s))
  | .utf16le, s => some (Utf16.encode .little s)
  | .utf16be, s => some (Utf16.encode .big s)

/-- The text of octets. One byte order mark at the start belongs to the encoding and not to the
text, where the character set has one. -/
def decode : Charset → List UInt8 → Except OctetFault (List Char)
  | .ascii, bs => decodeAscii 0 bs
  | .latin1, bs => .ok (bs.map fun b => Char.ofNat b.toNat)
  | .utf8, bs => Utf8.decode bs
  | .utf8Signed, bs =>
    match bs with
    | 0xEF :: 0xBB :: 0xBF :: t => Utf8.decode t
    | _ => Utf8.decode bs
  | .utf16, bs =>
    let (order, marked) := Utf16.markedOrder bs
    if marked then Utf16.decodeFrom order 2 (bs.drop 2) else Utf16.decodeFrom order 0 bs
  | .utf16le, bs => Utf16.decodeFrom .little 0 bs
  | .utf16be, bs => Utf16.decodeFrom .big 0 bs

end Charset

end Chronicle
