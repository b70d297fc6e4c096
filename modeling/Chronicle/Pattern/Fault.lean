import Chronicle.Number.Decimal
import Chronicle.Text.Quoted

/-!
# What is wrong with a pattern

Most faults have a position in the text of the pattern, counted from zero; if the pattern has
several lines, the line and the column are told as well.
-/
namespace Chronicle

/-- A misuse of flags inside a pattern. -/
inductive FlagMisuse where
  | locale | incompatible | globalOn | typeOff | globalOff | onAndOff
  deriving DecidableEq, Repr, Inhabited

/-- The words for a misuse. -/
def FlagMisuse.text : FlagMisuse → String
  | .locale => "cannot use 'L' flag with a str pattern"
  | .incompatible => "flags 'a', 'u' and 'L' are incompatible"
  | .globalOn => "cannot turn on global flag"
  | .typeOff => "cannot turn off flags 'a', 'u' and 'L'"
  | .globalOff => "cannot turn off global flag"
  | .onAndOff => "flag turned on and off"

/-- What is wrong at a position. -/
inductive PatternFlaw where
  | endsInBackslash
  | badEscape (escape : String)
  | incompleteEscape (escape : String)
  | largeOctal (escape : String)
  | unknownCharacter (name : String)
  /-- What should be here. -/
  | missing (what : String)
  | unexpectedEnd
  | unknownExtension (start : String)
  | unterminatedClass
  | reversedRange (range : String)
  | nothingToRepeat
  | repeatedTwice
  | reversedBounds
  | openGroup
  | groupInSameLook
  | unknownGroup (number : Nat)
  | groupZero
  | unknownName (name : String)
  | badName (name : String)
  | nameTaken (name : String) (number earlier : Nat)
  | threeBranches
  | lateFlags
  | unknownFlag
  | flags (misuse : FlagMisuse)
  | unbalanced
  deriving DecidableEq, Repr, Inhabited

/-- The words for a flaw. -/
def PatternFlaw.text : PatternFlaw → String
  | .endsInBackslash => "bad escape (end of pattern)"
  | .badEscape escape => "bad escape " ++ escape
  | .incompleteEscape escape => "incomplete escape " ++ escape
  | .largeOctal escape => "octal escape value " ++ escape ++ " outside of range 0-0o377"
  | .unknownCharacter name => "undefined character name " ++ Text.quote name
  | .missing what => "missing " ++ what
  | .unexpectedEnd => "unexpected end of pattern"
  | .unknownExtension start => "unknown extension " ++ start
  | .unterminatedClass => "unterminated character set"
  | .reversedRange range => "bad character range " ++ range
  | .nothingToRepeat => "nothing to repeat"
  | .repeatedTwice => "multiple repeat"
  | .reversedBounds => "min repeat greater than max repeat"
  | .openGroup => "cannot refer to an open group"
  | .groupInSameLook => "cannot refer to group defined in the same lookbehind subpattern"
  | .unknownGroup number => "invalid group reference " ++ String.ofList (Decimal.digits number)
  | .groupZero => "bad group number"
  | .unknownName name => "unknown group name " ++ Text.quote name
  | .badName name => "bad character in group name " ++ Text.quote name
  | .nameTaken name number earlier =>
    "redefinition of group name " ++ Text.quote name ++ " as group "
      ++ String.ofList (Decimal.digits number) ++ "; was group "
      ++ String.ofList (Decimal.digits earlier)
  | .threeBranches => "conditional backref with more than two branches"
  | .lateFlags => "global flags not at the start of the expression"
  | .unknownFlag => "unknown flag"
  | .flags misuse => "bad inline flags: " ++ misuse.text
  | .unbalanced => "unbalanced parenthesis"

/-- Why a text is no pattern. -/
inductive PatternFault where
  | flaw (what : PatternFlaw) (position : Nat)
  /-- What precedes a place is matched by a part without a fixed width. -/
  | variableLook
  | wideLook
  /-- A pattern with the template flag repeats something. -/
  | repeatedTemplate (repetition : String)
  /-- The pattern is declared to be both ASCII and Unicode. -/
  | mixedAlphabets
  /-- A number has this many digits, which are too many. -/
  | longNumber (digits : Nat)
  /-- A number of rounds is too large. -/
  | hugeRepeat
  deriving DecidableEq, Repr, Inhabited

namespace PatternFault

/-- A position in a text: its line and its column, both counted from one. -/
def lineAndColumn (text : List Char) (position : Nat) : Nat × Nat :=
  let before := text.take position
  (before.count '\n' + 1, (before.reverse.takeWhile (· != '\n')).length + 1)

/-- The text of a fault of a pattern. -/
def message (pattern : List Char) : PatternFault → String
  | .flaw what position =>
    let number (n : Nat) := String.ofList (Decimal.digits n)
    let (line, column) := lineAndColumn pattern position
    what.text ++ " at position " ++ number position
      ++ if pattern.contains '\n' then
        " (line " ++ number line ++ ", column " ++ number column ++ ")"
      else ""
  | .variableLook => "look-behind requires fixed-width pattern"
  | .wideLook => "looks too much behind"
  | .repeatedTemplate repetition => "internal: unsupported template operator " ++ repetition
  | .mixedAlphabets => "ASCII and UNICODE flags are incompatible"
  | .longNumber digits => Decimal.tooLong digits
  | .hugeRepeat => "the repetition number is too large"

end PatternFault

end Chronicle
