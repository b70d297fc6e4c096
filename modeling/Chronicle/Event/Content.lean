import Chronicle.Message
import Chronicle.Octets.Base64
import Chronicle.Octets.Charset

/-!
# Attachment content as text

An event record holds the octets of an attachment as a text: in Base64, or as what they mean in a
named character set. `Content.decode` and `Content.encode` go between the two, and say why a text is
no content and why a content has no text.
-/
namespace Chronicle.Content

/-- The name that stands for Base64; a character set has any other name. -/
def base64Name : String := "base64"

/-- Why a text is no content. -/
inductive DecodeFault where
  | notBase64
  /-- The text has characters that no Base64 text has: those that are not ASCII. -/
  | notAscii
  /-- The encoding of this name is none, or lacks a character of the text. -/
  | notEncodable (encoding : String)
  /-- The name of the encoding has a NUL in it. -/
  | malformedName
  deriving DecidableEq, Repr, Inhabited

/-- The text of a fault. -/
def DecodeFault.message : DecodeFault → String
  | .notBase64 => "attachment content is not valid base64"
  | .notAscii => "string argument should contain only ASCII characters"
  | .notEncodable encoding => "attachment content cannot be encoded as " ++ encoding
  | .malformedName => "embedded null character"

/-- Why a content has no text. -/
inductive EncodeFault where
  | unknownEncoding (name : String)
  /-- The encoding of this name is not one between texts and octets. -/
  | notTextEncoding (name : String)
  /-- The octets are no text in the character set that reports itself under this name. -/
  | notText (charset : String) (fault : OctetFault)
  | malformedName
  deriving DecidableEq, Repr, Inhabited

/-- The text of a fault. -/
def EncodeFault.message : EncodeFault → String
  | .unknownEncoding name => "unknown encoding: " ++ name
  | .notTextEncoding name =>
    "'" ++ name ++ "' is not a text encoding; use codecs.decode() to handle arbitrary codecs"
  | .notText charset fault => fault.message charset
  | .malformedName => "embedded null character"

/-- The octets that a text stands for in Base64. -/
def decodeBase64 (text : List Char) : Except DecodeFault Bytes :=
  if text.any (fun c => 0x80 ≤ c.toNat) then .error .notAscii
  else
    match Base64.decode text with
    | some bytes => .ok bytes
    | none => .error .notBase64

/-- The octets that a text stands for. -/
def decode (encoding text : String) : Except DecodeFault Bytes :=
  if encoding = base64Name then decodeBase64 text.toList
  else
    match Charset.ofName encoding with
    | .malformed => .error .malformedName
    | .charset c =>
      match c.encode text.toList with
      | some bytes => .ok bytes
      | none => .error (.notEncodable encoding)
    | _ => .error (.notEncodable encoding)

/-- The text that stands for octets. No octets at all are the empty text in any encoding, even in
one that does not exist. -/
def encode (encoding : String) (bytes : Bytes) : Except EncodeFault String :=
  if encoding = base64Name then .ok (String.ofList (Base64.encode bytes))
  else
    match Charset.ofName encoding with
    | .malformed => .error .malformedName
    | found =>
      if bytes.isEmpty then .ok ""
      else
        match found with
        | .charset c =>
          match c.decode bytes with
          | .ok text => .ok (String.ofList text)
          | .error fault => .error (.notText (c.reportName bytes) fault)
        | .notText => .error (.notTextEncoding encoding)
        | _ => .error (.unknownEncoding encoding)

end Chronicle.Content
