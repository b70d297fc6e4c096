import Chronicle.Pattern.Node

/-!
# Searching for a pattern

`Node.run` tries the ways in which a node matches, one after another, and hands each place that it
reaches to what comes next, until that succeeds. A repetition does not go on where its last round
did not move, so the rest of the text bounds the number of rounds.
-/
namespace Chronicle.Pattern

/-- A place in a text, and what the groups have matched so far, the newest first. -/
structure Spot where
  /-- What precedes the place, the nearest character first. -/
  before : List Char
  after : List Char
  groups : List (Nat × List Char) := []
  deriving DecidableEq, Repr, Inhabited

/-- What comes next. -/
abbrev Next := Spot → Option Spot

namespace Spot

/-- The place after the next character, if that is of a class. -/
def pass (k : CharClass) (s : Spot) : Option Spot :=
  match s.after with
  | [] => none
  | c :: rest =>
    if k.contains c then some { s with before := c :: s.before, after := rest } else none

/-- The place some characters further back. -/
def stepBack (s : Spot) : Nat → Option Spot
  | 0 => some s
  | n + 1 =>
    match s.before with
    | [] => none
    | c :: rest => stepBack { s with before := rest, after := c :: s.after } n

/-- The place after a text, if that comes next. -/
def passText (casing : Casing) (s : Spot) : List Char → Option Spot
  | [] => some s
  | c :: cs =>
    match s.after with
    | [] => none
    | d :: rest =>
      if casing.fold c = casing.fold d then
        passText casing { s with before := d :: s.before, after := rest } cs
      else none

/-- Whether exactly one of the two characters around a place belongs to a word. -/
def isWordEdge (ascii : Bool) (s : Spot) : Bool :=
  let isWord := Category.word.contains ascii
  (s.before.head?.any isWord) != (s.after.head?.any isWord)

/-- Whether a place is of a kind. -/
def isAt (s : Spot) : Place → Bool
  | .textStart => s.before.isEmpty
  | .textEnd => s.after.isEmpty
  | .lineStart => s.before.isEmpty || s.before.head? == some '\n'
  | .lineEnd => s.after.isEmpty || s.after.head? == some '\n'
  | .lastLineEnd => s.after.isEmpty || s.after == ['\n']
  | .wordEdge ascii => s.isWordEdge ascii
  | .notWordEdge ascii => !(s.before.isEmpty && s.after.isEmpty) && !s.isWordEdge ascii

/-- Remembers for a group what lies between an earlier place and this one. -/
def remember (s : Spot) (number : Nat) (start : Spot) : Spot :=
  let matched := start.after.take (start.after.length - s.after.length)
  { s with groups := (number, matched) :: s.groups.filter (·.1 != number) }

end Spot

/-! ### Repetitions -/

/-- A number of rounds. -/
def exactly (body : Spot → Next → Option Spot) : Nat → Spot → Next → Option Spot
  | 0, s, k => k s
  | n + 1, s, k => body s fun t => exactly body n t k

/-- Whether a further round may be tried: there is room for one, and the last one has moved. -/
def mayRepeat (room : Option Nat) (last : Option Nat) (s : Spot) : Bool :=
  room != some 0 && last != some s.after.length

/-- As many rounds as possible, then fewer. The last round started where `last` characters were
left. -/
def greedily (body : Spot → Next → Option Spot) (k : Next) :
    Nat → Option Nat → Option Nat → Next
  | 0, _, _, s => k s
  | bound + 1, room, last, s =>
    let further :=
      if mayRepeat room last s then
        body s (greedily body k bound (room.map (· - 1)) (some s.after.length))
      else none
    further <|> k s

/-- As few rounds as possible, then more. -/
def lazily (body : Spot → Next → Option Spot) (k : Next) :
    Nat → Option Nat → Option Nat → Next
  | 0, _, _, s => k s
  | bound + 1, room, last, s =>
    let further (_ : Unit) :=
      if mayRepeat room last s then
        body s (lazily body k bound (room.map (· - 1)) (some s.after.length))
      else none
    k s <|> further ()

/-- As many rounds as possible, each of them settled before the next one. -/
def possessively (body : Spot → Next → Option Spot) (k : Next) :
    Nat → Option Nat → Option Nat → Next
  | 0, _, _, s => k s
  | bound + 1, room, last, s =>
    if mayRepeat room last s then
      match body s some with
      | some t => possessively body k bound (room.map (· - 1)) (some s.after.length) t
      | none => k s
    else k s

/-- A number of settled rounds. -/
def settled (body : Spot → Next → Option Spot) : Nat → Spot → Option Spot
  | 0, s => some s
  | n + 1, s => (body s some).bind (settled body n)

/-- A repetition: the rounds that are required, and then those that are not. -/
def repetition (greed : Greed) (least : Nat) (most : Option Nat)
    (body : Spot → Next → Option Spot) (s : Spot) (k : Next) : Option Spot :=
  let room := most.map (· - least)
  let bound (t : Spot) := t.after.length + 2
  match greed with
  | .greedy => exactly body least s fun t => greedily body k (bound t) room none t
  | .lazy => exactly body least s fun t => lazily body k (bound t) room none t
  | .possessive =>
    (settled body least s).bind fun t => possessively body k (bound t) room none t

/-! ### Nodes -/

/-- The first way in which a node matches at a place so that what comes next succeeds. -/
def Node.run : Node → Spot → Next → Option Spot
  | .empty, s, k => k s
  | .one c, s, k => (s.pass c).bind k
  | .place p, s, k => if s.isAt p then k s else none
  | .seq a b, s, k => a.run s fun t => b.run t k
  | .alt a b, s, k => a.run s k <|> b.run s k
  | .repeated greed least most body, s, k =>
    repetition greed least most (fun t next => body.run t next) s k
  | .group n body, s, k => body.run s fun t => k (t.remember n s)
  | .same n casing, s, k => (s.groups.lookup n).bind fun text => (s.passText casing text).bind k
  | .ifGroup n yes no, s, k => if (s.groups.lookup n).isSome then yes.run s k else no.run s k
  | .look back negated body, s, k =>
    let start := match back with
      | some w => s.stepBack w.least
      | none => some s
    match start.bind fun t => body.run t some with
    | some t => if negated then none else k { s with groups := t.groups }
    | none => if negated then k s else none
  | .atomic body, s, k => (body.run s some).bind k

/-- Whether a node matches somewhere in the rest of a text. -/
def Node.occursAfter (n : Node) (before : List Char) : List Char → Bool
  | [] => (n.run ⟨before, [], []⟩ some).isSome
  | c :: rest => (n.run ⟨before, c :: rest, []⟩ some).isSome || n.occursAfter (c :: before) rest

/-- Whether a node matches somewhere in a text. -/
def Node.occursIn (n : Node) (text : List Char) : Bool :=
  n.occursAfter [] text

end Chronicle.Pattern
