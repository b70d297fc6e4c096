import Chronicle.Pattern.Escape
import Chronicle.Pattern.Search
import Chronicle.Number.Numeral
import Chronicle.Text.Identifier

/-!
# Reading patterns

`Pattern.ofText` reads the text of a pattern that is searched for without regard to case. The first
fault ends the reading, except that what is asked of places further back is checked at the end.
-/
namespace Chronicle
namespace Pattern

/-- What may follow an item of a sequence. -/
inductive ItemKind where
  /-- A place cannot be repeated. -/
  | place
  /-- A repetition cannot be repeated again. -/
  | repetition
  | other
  deriving DecidableEq, Repr, Inhabited

/-- An item of a sequence. -/
structure Item where
  node : Node
  kind : ItemKind := .other
  deriving Repr, Inhabited

/-- An item that is a single node. -/
def Item.ofNode (node : Node) : Item :=
  match node with
  | .place _ => ⟨node, .place⟩
  | _ => ⟨node, .other⟩

/-- The changes of flags around a place, the outermost first. -/
abbrev Scope := List (Flags × Flags)

namespace Reading

/-- The flags that hold in a scope. -/
def flagsIn (scope : Scope) : Reading Flags := do
  return scope.foldl (fun flags change => flags.change change.1 change.2) (← get).flags

/-! ### Classes -/

/-- What a token inside a class stands for. -/
def classToken (token : Token) : Reading ClassEscape := do
  match token with
  | '\\' :: c :: _ => classEscape c
  | c :: _ => return .code c.toNat
  | [] => return .code 0

/-- A part of a class. -/
def memberOf (ascii : Bool) : ClassEscape → ClassMember
  | .code n => .range n n
  | .category k negated => .category k negated ascii

/-- The members of a class that starts at a position, up to the closing bracket. A bracket in the
first place closes nothing. The bound exceeds the number of tokens left. -/
def classMembers (ascii : Bool) (start : Nat) : Nat → List ClassMember → Reading (List ClassMember)
  | 0, _ => failAt start .unterminatedClass
  | bound + 1, members => do
    match ← next with
    | none => failAt start .unterminatedClass
    | some this =>
      if this = [']'] && !members.isEmpty then return members
      let first ← classToken this
      if ← accept '-' then
        match ← next with
        | none => failAt start .unterminatedClass
        | some that =>
          if that = [']'] then return members ++ [memberOf ascii first, .range 45 45]
          let last ← classToken that
          match first, last with
          | .code low, .code high =>
            if high < low then badRange this that
            else classMembers ascii start bound (members ++ [.range low high])
          | _, _ => badRange this that
      else classMembers ascii start bound (members ++ [memberOf ascii first])
where
  /-- Stops at a range. -/
  badRange (this that : Token) : Reading (List ClassMember) := do
    let range := this ++ '-' :: that
    fail (.reversedRange (String.ofList range)) range.length

/-- A class, from the position of its opening bracket on. -/
def charClass (flags : Flags) (start : Nat) : Reading Node := do
  let negated ← accept '^'
  let members ← classMembers (flags.contains .ascii) start ((← get).rest.length + 1) []
  return flags.charClass negated members

/-! ### Repetitions -/

/-- A number of rounds. -/
def rounds (digits : List Char) : Reading Nat := do
  if Decimal.maxDigits < digits.length then throw (.longNumber digits.length)
  let n := Decimal.ofDigits digits
  if 0xffffffff ≤ n then throw .hugeRepeat
  return n

/-- The bounds of a repetition, given its first character. A brace that starts no bounds is an
ordinary character. -/
def bounds? (c : Char) : Reading (Option (Nat × Option Nat)) := do
  match c with
  | '?' => return some (0, some 1)
  | '*' => return some (0, none)
  | '+' => return some (1, none)
  | _ =>
    let before ← get
    if (← peek) = some ['}'] then return none
    let low ← takeAll Char.isDigit
    let high ← if ← accept ',' then takeAll Char.isDigit else pure low
    if !(← accept '}') then
      set before
      return none
    let least ← if low.isEmpty then pure 0 else rounds low
    if high.isEmpty then return some (least, none)
    let most ← rounds high
    if most < least then failAt before.position .reversedBounds
    return some (least, some most)

/-- How the rounds of a repetition are chosen. -/
def greed : Reading Greed := do
  if ← accept '?' then return .lazy
  if ← accept '+' then return .possessive
  return .greedy

/-- The sequence with its last item repeated. The items are given in reverse, and the position is
that of the repetition. -/
def repeatLast (start : Nat) (bounds : Nat × Option Nat) : List Item → Reading (List Item)
  | [] => failAt start .nothingToRepeat
  | item :: rest => do
    match item.kind with
    | .place => failAt start .nothingToRepeat
    | .repetition => failAt start .repeatedTwice
    | .other =>
      return ⟨.repeated (← greed) bounds.1 bounds.2 item.node, .repetition⟩ :: rest

/-! ### Flags -/

/-- The flag of a token, if it has one. -/
def flagOf (token : Token) : Option Flag :=
  match token with
  | [c] => Flag.ofLetter? c
  | _ => none

/-- Stops at a token that should be a flag. -/
def noFlag {α : Type} (token : Token) (wanted : String) : Reading α := do
  match token with
  | [c] =>
    if Text.isAlphanumeric c && !Text.isDecimalDigit c then fail .unknownFlag 1
    else fail (.missing wanted) 1
  | _ => fail (.missing wanted) token.length

/-- Flags to turn on, the first of which has been taken, and the token that ends them. -/
def flagsOn : Nat → Flag → Flags → Reading (Flags × Token)
  | 0, _, _ => fail .unexpectedEnd 0
  | bound + 1, flag, flags => do
    if flag = .locale then fail (.flags .locale) 0
    let flags := flags ++ [flag]
    if flag.isAlphabet && flags.any fun f => f.isAlphabet && f != flag then
      fail (.flags .incompatible) 0
    match ← next with
    | none => fail (.missing "-, : or )") 0
    | some token =>
      if token = [')'] || token = ['-'] || token = [':'] then return (flags, token)
      match flagOf token with
      | some f => flagsOn bound f flags
      | none => noFlag token "-, : or )"

/-- Flags to turn off, the first of which has been taken. -/
def flagsOff : Nat → Flag → Flags → Reading Flags
  | 0, _, _ => fail .unexpectedEnd 0
  | bound + 1, flag, flags => do
    if flag.isAlphabet then fail (.flags .typeOff) 0
    let flags := flags ++ [flag]
    match ← next with
    | none => fail (.missing ":") 0
    | some token =>
      if token = [':'] then return flags
      match flagOf token with
      | some f => flagsOff bound f flags
      | none => noFlag token ":"

/-- The flags of a part of a pattern, to be turned on and off, of which the first token has been
taken. Nothing is returned if they hold for the whole pattern. -/
def flagChange (first : Token) : Reading (Option (Flags × Flags)) := do
  let bound := (← get).rest.length + 1
  let (on, ending) ← match flagOf first with
    | some f => flagsOn bound f []
    | none => pure ([], first)
  if ending = [')'] then
    modify fun c => { c with flags := c.flags ++ on }
    return none
  if on.contains .template then fail (.flags .globalOn) 1
  if ending = [':'] then return some (on, [])
  match ← next with
  | none => fail (.missing "flag") 0
  | some token =>
    match flagOf token with
    | none => noFlag token "flag"
    | some f =>
      let off ← flagsOff bound f []
      if off.contains .template then fail (.flags .globalOff) 1
      if on.any off.contains then fail (.flags .onAndOff) 1
      return some (on, off)

/-! ### Names of groups -/

/-- The name of a group up to a character that ends it. -/
def groupName (terminator : Char) : Reading String := do
  let name ← name terminator "group name"
  if !Text.isName name then fail (.badName (String.ofList name)) (name.length + 1)
  return String.ofList name

/-- The number of the group with a name. -/
def groupNamed (name : String) : Reading Nat := do
  match (← get).names.lookup name with
  | some number => return number
  | none => fail (.unknownName name) (name.length + 1)

/-- A group by its name. -/
def groupByName (flags : Flags) : Reading Node := do
  let name ← groupName ')'
  let number ← groupNamed name
  if !(← isClosed number) then fail .openGroup (name.length + 1)
  checkLook number
  return .same number flags.casing

/-- The number of a group that a choice depends on, given by name or number. -/
def condition : Reading Nat := do
  let name ← name ')' "group name"
  let back := name.length + 1
  if Text.isName name then groupNamed (String.ofList name)
  else
    match Numeral.integer 10 name with
    | .ok (.ofNat number) =>
      if number = 0 then fail .groupZero back
      if 0x3fffffff ≤ number then fail (.unknownGroup number) back
      let place := (← position) - back
      modify fun c =>
        if c.conditions.any (·.1 == number) then c
        else { c with conditions := c.conditions ++ [(number, place)] }
      return number
    | _ => fail (.badName (String.ofList name)) back

/-! ### Sequences and groups -/

/-- Takes a comment up to the parenthesis that closes it. -/
def comment (start : Nat) : Nat → Reading Unit
  | 0 => failAt start (.missing "), unterminated comment")
  | bound + 1 => do
    match ← next with
    | none => failAt start (.missing "), unterminated comment")
    | some token => if token = [')'] then pure () else comment start bound

/-- Takes the rest of a line. -/
def restOfLine : Nat → Reading Unit
  | 0 => pure ()
  | bound + 1 => do
    match ← next with
    | none => pure ()
    | some token => if token = ['\n'] then pure () else restOfLine bound

/-- Takes the parenthesis that closes what was opened at a position. -/
def close (start : Nat) : Reading Unit := do
  if !(← accept ')') then failAt start (.missing "), unterminated subpattern")

/-- How a parenthesis goes on. -/
inductive Opening where
  | capture (name : Option String)
  | part (on off : Flags)
  | atomic
  | look (back negated : Bool)
  | choice (number : Nat)
  /-- A complete node. -/
  | done (node : Node)
  /-- A comment, or flags of the whole pattern. -/
  | nothing
  deriving Repr, Inhabited

/-- How a parenthesis goes on whose next token is a question mark, which has been taken. Flags of
the whole pattern are possible at its start only. -/
def extension (flags : Flags) (start : Nat) (isStart : Bool) : Reading Opening := do
  match ← next with
  | none => fail .unexpectedEnd 0
  | some ['P'] =>
    if ← accept '<' then return .capture (some (← groupName '>'))
    if ← accept '=' then return .done (← groupByName flags)
    match ← next with
    | none => fail .unexpectedEnd 0
    | some token =>
      fail (.unknownExtension (String.ofList ('?' :: 'P' :: token))) (token.length + 2)
  | some [':'] => return .part [] []
  | some ['#'] =>
    comment start ((← get).rest.length + 1)
    return .nothing
  | some ['='] => return .look false false
  | some ['!'] => return .look false true
  | some ['<'] =>
    match ← next with
    | none => fail .unexpectedEnd 0
    | some ['='] => return .look true false
    | some ['!'] => return .look true true
    | some token =>
      fail (.unknownExtension (String.ofList ('?' :: '<' :: token))) (token.length + 2)
  | some ['('] =>
    let number ← condition
    checkLook number
    return .choice number
  | some ['>'] => return .atomic
  | some token =>
    if (flagOf token).isSome || token = ['-'] then
      match ← flagChange token with
      | some (on, off) => return .part on off
      | none =>
        if !isStart then failAt start .lateFlags
        return .nothing
    else fail (.unknownExtension (String.ofList ('?' :: token))) (token.length + 1)

/-- How a parenthesis at a position goes on. -/
def opening (flags : Flags) (start : Nat) (isStart : Bool) : Reading Opening := do
  if ← accept '?' then extension flags start isStart else return .capture none

mutual

/-- One of several sequences. Those at the very start of the pattern may give flags to it. -/
def alternatives : Nat → Scope → Bool → Reading Node
  | 0, _, _ => fail .unexpectedEnd 0
  | bound + 1, scope, isStart => do
    let items ← sequence bound scope isStart []
    let first := Node.sequence (items.reverse.map Item.node)
    if ← accept '|' then return .alt first (← alternatives bound scope false)
    return first

/-- A sequence of items, those read so far being given in reverse. -/
def sequence : Nat → Scope → Bool → List Item → Reading (List Item)
  | 0, _, _, _ => fail .unexpectedEnd 0
  | bound + 1, scope, isStart, items => do
    let flags ← flagsIn scope
    let start ← position
    match ← peek with
    | none => return items
    | some token =>
      if token = ['|'] || token = [')'] then return items
      let _ ← next
      let more (node : Node) := sequence bound scope isStart (Item.ofNode node :: items)
      let c := token.headD ' '
      if flags.contains .verbose && token.length = 1
          && Category.blank.contains true c then
        sequence bound scope isStart items
      else if flags.contains .verbose && c = '#' then
        restOfLine ((← get).rest.length + 1)
        sequence bound scope isStart items
      else
        match c with
        | '\\' => more (← escape flags ((token.drop 1).headD ' '))
        | '[' => more (← charClass flags start)
        | '.' => more flags.anyChar
        | '^' => more (.place flags.start)
        | '$' => more (.place flags.finish)
        | '(' =>
          match ← opening flags start (isStart && items.isEmpty) with
          | .nothing => sequence bound scope isStart items
          | .done node => more node
          | how =>
            let node ← group bound scope start how
            sequence bound scope isStart (⟨node, .other⟩ :: items)
        | '?' | '*' | '+' | '{' =>
          match ← bounds? c with
          | some bounds => sequence bound scope isStart (← repeatLast start bounds items)
          | none => more (flags.literal c.toNat)
        | _ => more (flags.literal c.toNat)

/-- The body of a parenthesis, and what the parenthesis makes of it. -/
def group : Nat → Scope → Nat → Opening → Reading Node
  | 0, _, _, _ => fail .unexpectedEnd 0
  | bound + 1, scope, start, how => do
    match how with
    | .capture name =>
      let number ← openGroup name
      let body ← alternatives bound scope false
      close start
      closeGroup number body
      return .group number body
    | .part on off =>
      let body ← alternatives bound (scope ++ [(on, off)]) false
      close start
      return body
    | .atomic =>
      let body ← alternatives bound scope false
      close start
      return .atomic body
    | .look back negated =>
      let outer := (← get).look
      if back && outer.isNone then modify fun c => { c with look := some c.groups.length }
      let body ← alternatives bound scope false
      if back then modify fun c => { c with look := outer }
      let cursor ← get
      close start
      return .look (if back then some (body.width (groupWidth cursor)) else none) negated body
    | .choice number =>
      let yes ← sequence bound scope false []
      let no ← if ← accept '|' then sequence bound scope false [] else pure []
      if (← peek) = some ['|'] then fail .threeBranches 0
      close start
      let node (items : List Item) := Node.sequence (items.reverse.map Item.node)
      return .ifGroup number (node yes) (node no)
    | .done node => return node
    | .nothing => return .empty

end

end Reading

/-! ### Whole patterns -/

/-- The name of a repetition as a fault tells it. -/
def Greed.name : Greed → String
  | .greedy => "MAX_REPEAT"
  | .lazy => "MIN_REPEAT"
  | .possessive => "POSSESSIVE_REPEAT"

/-- What is wrong with a pattern that has been read: what precedes a place must have one width, and
a template repeats nothing. -/
def Node.fault? (isTemplate : Bool) : Node → Option PatternFault
  | .empty | .one _ | .place _ | .same .. => none
  | .seq a b | .alt a b | .ifGroup _ a b => a.fault? isTemplate <|> b.fault? isTemplate
  | .repeated greed _ _ body =>
    if isTemplate then some (.repeatedTemplate greed.name) else body.fault? isTemplate
  | .group _ body | .atomic body | .look none _ body => body.fault? isTemplate
  | .look (some w) _ body =>
    if 0xffffffff < w.least then some .wideLook
    else if w.least != w.most then some .variableLook
    else body.fault? isTemplate

namespace Reading

/-- A whole pattern. -/
def wholePattern : Reading Node := do
  let node ← alternatives (3 * (← get).rest.length + 5) [] true
  let cursor ← get
  if cursor.flags.contains .ascii && cursor.flags.contains .unicode then throw .mixedAlphabets
  if !cursor.rest.isEmpty then fail .unbalanced 0
  match cursor.conditions.find? fun c => cursor.groups.length < c.1 with
  | some (number, place) => failAt place (.unknownGroup number)
  | none => pure ()
  match node.fault? (cursor.flags.contains .template) with
  | some fault => throw fault
  | none => return node

end Reading

/-- The node of a text, read with some flags. -/
def Node.ofText (names : Text.CharacterNames) (flags : Flags) (text : List Char) :
    Except PatternFault Node :=
  if text = ['\\'] then .error (.flaw .endsInBackslash 0)
  else
    (Reading.wholePattern.run { rest := text, characters := names, flags := flags }).map Prod.fst

end Pattern

/-- A pattern that is searched for without regard to case. -/
structure Pattern where
  text : String
  root : Pattern.Node
  deriving DecidableEq, Repr, Inhabited

namespace Pattern

/-- The pattern that a text describes, where characters have the names of a table. -/
def ofText (names : Text.CharacterNames) (text : String) : Except PatternFault Pattern :=
  (Node.ofText names [.ignoreCase] text.toList).map fun root => ⟨text, root⟩

/-- A pattern keeps the text that it is read from. -/
theorem text_ofText {names : Text.CharacterNames} {s : String} {p : Pattern}
    (h : ofText names s = .ok p) : p.text = s := by
  rw [ofText] at h
  cases hroot : Node.ofText names [.ignoreCase] s.toList with
  | ok root =>
    rw [hroot] at h
    cases h
    rfl
  | error f =>
    rw [hroot] at h
    cases h

/-- The pattern that matches a text without special characters. -/
def ofWords (text : String) : Pattern :=
  ⟨text, Node.sequence (text.toList.map fun c => Flags.literal [.ignoreCase] c.toNat)⟩

/-- Whether the pattern matches somewhere in a text. -/
def occursIn (p : Pattern) (text : String) : Bool :=
  p.root.occursIn text.toList

end Pattern

end Chronicle
