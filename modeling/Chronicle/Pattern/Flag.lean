import Chronicle.Pattern.Node

/-!
# Flags

Flags say how a pattern is read and how it compares characters. They hold for a whole pattern or for
a part of it, where some are turned on and others off.
-/
namespace Chronicle.Pattern

/-- A flag. -/
inductive Flag where
  | ignoreCase | locale | multiline | dotAll | verbose | ascii | template | unicode
  deriving DecidableEq, Repr, Inhabited

namespace Flag

/-- The flag with a letter. -/
def ofLetter? : Char → Option Flag
  | 'i' => some .ignoreCase
  | 'L' => some .locale
  | 'm' => some .multiline
  | 's' => some .dotAll
  | 'x' => some .verbose
  | 'a' => some .ascii
  | 't' => some .template
  | 'u' => some .unicode
  | _ => none

/-- A flag that says which characters there are. Only one of them holds at a time. -/
def isAlphabet : Flag → Bool
  | .ascii | .locale | .unicode => true
  | _ => false

end Flag

/-- The flags that hold at a place. -/
abbrev Flags := List Flag

namespace Flags

/-- The flags of a part that turns some on and others off. -/
def change (flags on off : Flags) : Flags :=
  let kept := if on.any (·.isAlphabet) then flags.filter (!·.isAlphabet) else flags
  (kept ++ on).filter (!off.contains ·)

/-- How letters are compared. -/
def casing (flags : Flags) : Casing :=
  if !flags.contains .ignoreCase then .exact
  else if flags.contains .ascii then .ignoredInAscii
  else .ignored

/-- A class of characters. -/
def charClass (flags : Flags) (negated : Bool) (members : List ClassMember) : Node :=
  .one ⟨members, negated, flags.casing⟩

/-- A single character. -/
def literal (flags : Flags) (n : Nat) : Node :=
  flags.charClass false [.range n n]

/-- Any character, or any but a line feed. -/
def anyChar (flags : Flags) : Node :=
  .one ⟨if flags.contains .dotAll then [] else [.range 10 10], true, .exact⟩

/-- Where lines or the text start. -/
def start (flags : Flags) : Place :=
  if flags.contains .multiline then .lineStart else .textStart

/-- Where lines or the text end. -/
def finish (flags : Flags) : Place :=
  if flags.contains .multiline then .lineEnd else .lastLineEnd

end Flags

end Chronicle.Pattern
