import Chronicle.Text.Alphanumeric
import Chronicle.Text.Blank
import Chronicle.Text.Case

/-!
# Patterns

A pattern is built from classes of characters and from places in a text by sequence, choice and
repetition. Groups remember what they matched, so that a later part of the pattern can ask for the
same text again; assertions look at what follows or precedes a place without moving on.
-/
namespace Chronicle.Pattern

/-- How letters are compared. -/
inductive Casing where
  | exact
  /-- Without regard to case. -/
  | ignored
  /-- Without regard to the case of ASCII letters. -/
  | ignoredInAscii
  deriving DecidableEq, Repr, Inhabited

/-- The characters that are taken for `c`. -/
def Casing.variants (casing : Casing) (c : Char) : List Char :=
  match casing with
  | .exact => [c]
  | .ignored => c :: Text.caseVariants c
  | .ignoredInAscii => [c, c.toLower, c.toUpper]

/-- The character that stands for `c` when two texts are compared. -/
def Casing.fold (casing : Casing) (c : Char) : Char :=
  match casing with
  | .exact => c
  | .ignored => Text.toLower c
  | .ignoredInAscii => c.toLower

/-! ### Classes of characters -/

/-- A kind of character. -/
inductive Category where
  | digit | blank | word
  deriving DecidableEq, Repr, Inhabited

/-- Whether a character is of a kind, in ASCII or in all of Unicode. -/
def Category.contains (k : Category) (ascii : Bool) (c : Char) : Bool :=
  let n := c.toNat
  match k with
  | .digit => if ascii then c.isDigit else Text.isDecimalDigit c
  | .blank => if ascii then n == 0x20 || (0x09 ≤ n && n ≤ 0x0D) else Text.isBlank c
  | .word => if ascii then c.isAlphanum || c == '_' else Text.isWordChar c

/-- A part of a class. -/
inductive ClassMember where
  /-- The code points between two, with both. -/
  | range (first last : Nat)
  /-- The characters of a kind, or all others. -/
  | category (k : Category) (negated ascii : Bool)
  deriving DecidableEq, Repr, Inhabited

/-- A class of characters. -/
structure CharClass where
  members : List ClassMember
  negated : Bool := false
  casing : Casing := .exact
  deriving DecidableEq, Repr, Inhabited

/-- Whether a character belongs to a part of a class. -/
def ClassMember.contains (casing : Casing) (c : Char) : ClassMember → Bool
  | .range first last =>
    (casing.variants c).any fun v => first ≤ v.toNat && v.toNat ≤ last
  | .category k negated ascii => k.contains ascii c != negated

/-- Whether a character belongs to a class. -/
def CharClass.contains (k : CharClass) (c : Char) : Bool :=
  k.members.any (·.contains k.casing c) != k.negated

/-! ### Places -/

/-- A kind of place in a text. -/
inductive Place where
  | textStart
  | textEnd
  | lineStart
  | lineEnd
  /-- The end of the text, or before a line feed that ends it. -/
  | lastLineEnd
  /-- Between a character of a word and another one. -/
  | wordEdge (ascii : Bool)
  /-- Any other place of a text that is not empty. -/
  | notWordEdge (ascii : Bool)
  deriving DecidableEq, Repr, Inhabited

/-! ### Nodes -/

/-- The least and the greatest number of characters that a node matches. -/
structure Width where
  least : Nat
  most : Nat
  deriving DecidableEq, Repr, Inhabited

namespace Width

/-- The width of what has no bound. -/
def unbounded : Nat := 0x10000000000000000

/-- A width with both ends kept within the bound. -/
def capped (least most : Nat) : Width :=
  ⟨min least unbounded, min most unbounded⟩

/-- One thing after another. -/
def add (v w : Width) : Width :=
  capped (v.least + w.least) (v.most + w.most)

/-- One thing or another. -/
def join (v w : Width) : Width :=
  ⟨min v.least w.least, max v.most w.most⟩

/-- A thing several times. -/
def times (w : Width) (least : Nat) (most : Option Nat) : Width :=
  capped (w.least * least) <|
    match most with
    | some m => w.most * m
    | none => if w.most = 0 then 0 else unbounded

end Width

/-- How a repetition chooses the number of times. -/
inductive Greed where
  /-- As often as possible, and then less often. -/
  | greedy
  /-- As seldom as possible, and then more often. -/
  | lazy
  /-- As often as possible, once and for all. -/
  | possessive
  deriving DecidableEq, Repr, Inhabited

/-- A pattern, or a part of one. -/
inductive Node where
  | empty
  | one (k : CharClass)
  | place (p : Place)
  | seq (first second : Node)
  | alt (first second : Node)
  | repeated (greed : Greed) (least : Nat) (most : Option Nat) (body : Node)
  /-- What the body matches is remembered under a number. -/
  | group (number : Nat) (body : Node)
  /-- The text that a group has matched. -/
  | same (number : Nat) (casing : Casing)
  /-- One of two nodes, by whether a group has matched. -/
  | ifGroup (number : Nat) (yes no : Node)
  /-- Whether the body matches, or does not match, at a place that may lie further back. -/
  | look (back : Option Width) (negated : Bool) (body : Node)
  /-- The first way in which the body matches, and no other. -/
  | atomic (body : Node)
  deriving DecidableEq, Repr, Inhabited

namespace Node

/-- The width of a node, given the widths of the groups. -/
def width (groups : Nat → Width) : Node → Width
  | .empty | .place _ | .look .. => ⟨0, 0⟩
  | .one _ => ⟨1, 1⟩
  | .seq a b => (a.width groups).add (b.width groups)
  | .alt a b => (a.width groups).join (b.width groups)
  | .repeated _ least most body => (body.width groups).times least most
  | .group _ body | .atomic body => body.width groups
  | .same n _ => groups n
  | .ifGroup _ yes no => (yes.width groups).join (no.width groups)

/-- The nodes of a list, one after another. -/
def sequence : List Node → Node
  | [] => .empty
  | [n] => n
  | n :: rest => .seq n (sequence rest)

end Node

end Chronicle.Pattern
