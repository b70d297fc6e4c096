import Chronicle.Number.Decimal
import Chronicle.Octets.Utf8
import Chronicle.Yaml.Scalar
import Chronicle.Yaml.Token

/-!
# Anchors, aliases, tags and directives

The words that start with an ampersand, an asterisk, an exclamation mark or a percent sign. Each
reader returns a token and the place after it.
-/
namespace Chronicle.Yaml

/-- A letter, a digit, a hyphen or an underscore, all of ASCII. -/
def isNameChar (c : Char) : Bool :=
  c.isAlphanum || c == '-' || c == '_'

/-! ### Anchors and aliases -/

/-- The characters that may follow a name. -/
def mayFollowName (c : Char) : Bool :=
  isGap c || "?:,]\x7d%@`".toList.contains c

/-- A name after its mark. -/
def anchorName (c : Cursor) : Except YamlFault (String × Cursor) :=
  let (name, c) := c.next.span isNameChar
  if name.isEmpty || !mayFollowName c.peek then .error .malformed
  else .ok (String.ofList name, c)

/-! ### Tags -/

/-- A character of a tag that stands for itself. -/
def isTagChar (c : Char) : Bool :=
  c.isAlphanum || "-;/?:@&=+$,_.!~*'()[]".toList.contains c

/-- The octets written as a percent sign and two digits each. -/
def tagOctets (c : Cursor) : Nat → Except YamlFault (List UInt8 × Cursor)
  | 0 => .error .malformed
  | bound + 1 =>
    if c.peek = '%' then
      let digits := c.next.rest.take 2
      match Text.ofHexDigits? digits with
      | some n => do
        if digits.length < 2 then throw .malformed
        let (more, c) ← tagOctets (c.skip 3) bound
        return (UInt8.ofNat n :: more, c)
      | none => .error .malformed
    else .ok ([], c)

/-- The text of a tag that follows. -/
def tagText (c : Cursor) : Nat → Except YamlFault (List Char × Cursor)
  | 0 => .error .malformed
  | bound + 1 => do
    if c.peek = '%' then
      let (octets, c) ← tagOctets c (c.rest.length + 1)
      match Utf8.decode octets with
      | .error _ => throw .malformed
      | .ok text =>
        let (more, c) ← tagText c bound
        return (text ++ more, c)
    else if isTagChar c.peek then
      let (found, c) := c.span isTagChar
      let (more, c) ← tagText c bound
      return (found ++ more, c)
    else return ([], c)

/-- The text of a tag that follows, which is not empty. -/
def someTagText (c : Cursor) : Except YamlFault (List Char × Cursor) := do
  let (text, c) ← tagText c (c.rest.length + 1)
  if text.isEmpty then throw .malformed
  return (text, c)

/-- The handle of a tag, between exclamation marks. -/
def tagHandle (c : Cursor) : Except YamlFault (String × Cursor) := do
  if c.peek != '!' then throw .malformed
  if c.ahead 1 = ' ' then return ("!", c.next)
  let (name, c) := c.next.span isNameChar
  if c.peek != '!' then throw .malformed
  return ("!" ++ String.ofList name ++ "!", c.next)

/-- A tag from its exclamation mark on. -/
def tag (c : Cursor) : Except YamlFault (Token × Cursor) := do
  let (text, c) ←
    if c.ahead 1 = '<' then do
      let (text, c) ← someTagText (c.skip 2)
      if c.peek != '>' then throw .malformed
      pure (TagText.mk none (String.ofList text), c.next)
    else if isGap (c.ahead 1) then pure (TagText.mk none "!", c.next)
    else do
      let word := c.next.rest.takeWhile (!isSpaceOrStop ·)
      let (handle, c) ← if word.contains '!' then tagHandle c else pure ("!", c.next)
      let (text, c) ← someTagText c
      pure (TagText.mk (some handle) (String.ofList text), c)
  if !isSpaceOrStop c.peek then throw .malformed
  return (.tag text, c)

/-! ### Directives -/

/-- A number in a directive. -/
def versionNumber (c : Cursor) : Except YamlFault (Nat × Cursor) := do
  let (digits, c) := c.span Char.isDigit
  if digits.isEmpty then throw .malformed
  if Decimal.maxDigits < digits.length then throw (.longNumber digits.length)
  return (Decimal.ofDigits digits, c)

/-- A directive, which ends with its line. -/
def directive (c : Cursor) : Except YamlFault (Token × Cursor) := do
  let (name, c) := c.next.span isNameChar
  if name.isEmpty || !isSpaceOrStop c.peek then throw .malformed
  let (token, c) ←
    if name = "YAML".toList then do
      let (major, c) ← versionNumber c.skipSpaces
      if c.peek != '.' then throw .malformed
      let (_, c) ← versionNumber c.next
      if !isSpaceOrStop c.peek then throw .malformed
      pure (Token.version major, c)
    else if name = "TAG".toList then do
      let (handle, c) ← tagHandle c.skipSpaces
      if c.peek != ' ' then throw .malformed
      let (text, c) ← someTagText c.skipSpaces
      if !isSpaceOrStop c.peek then throw .malformed
      pure (Token.declaration handle (String.ofList text), c)
    else pure (Token.directive, c.skipWhile (!isStop ·))
  return (token, ← ignoredLine c)

end Chronicle.Yaml
