import Chronicle.Yaml.Lexer
import Chronicle.Yaml.Plain

/-!
# Reading nodes

The node of a YAML text, read from its tokens. An alias stands for the node that has been given its
name. What is wrong with the text after the last token counts once that place is reached. The bounds
exceed the number of tokens left.
-/
namespace Chronicle.Yaml

/-- The tokens that are left, and what has been learnt. -/
structure NodeReader where
  tokens : List Token
  /-- What is wrong with the text after the tokens. -/
  fault : Option YamlFault := none
  /-- What the handles of tags stand for. -/
  handles : List (String × String) := []
  anchors : List (String × Node) := []
  deriving Repr, Inhabited

/-- A step of reading. -/
abbrev NodeReading := StateT NodeReader (Except YamlFault)

/-- The tag with a name. -/
def Tag.ofName (name : String) : Tag :=
  match name with
  | "tag:yaml.org,2002:null" => .null
  | "tag:yaml.org,2002:bool" => .bool
  | "tag:yaml.org,2002:int" => .int
  | "tag:yaml.org,2002:float" => .float
  | "tag:yaml.org,2002:timestamp" => .timestamp
  | "tag:yaml.org,2002:str" => .text
  | "tag:yaml.org,2002:binary" => .octets
  | "tag:yaml.org,2002:seq" => .list
  | "tag:yaml.org,2002:map" => .map
  | "tag:yaml.org,2002:omap" | "tag:yaml.org,2002:pairs" => .pairs
  | "tag:yaml.org,2002:set" => .set
  | "tag:yaml.org,2002:merge" => .merge
  | "tag:yaml.org,2002:value" => .equals
  | _ => .other

/-- What is said about a node before it. -/
structure Properties where
  anchor : Option String := none
  /-- The name of its tag; an exclamation mark alone is no name. -/
  tag : Option String := none
  deriving DecidableEq, Repr, Inhabited

namespace Properties

/-- The tag of a collection. -/
def collectionTag (p : Properties) (absent : Tag) : Tag :=
  match p.tag with
  | none => absent
  | some name => if name = "!" then absent else Tag.ofName name

/-- The node of a scalar. -/
def scalar (p : Properties) (text : List Char) (isPlain : Bool) : Node :=
  match p.tag with
  | none => .scalar (if isPlain then Tag.ofPlain text else .text) text
  | some name => .scalar (if name = "!" then Tag.ofPlain text else Tag.ofName name) text

end Properties

namespace NodeReading

/-- Stops at a token that does not belong here. -/
def fail {α : Type} : NodeReading α :=
  throw .malformed

/-- The next token, or nothing at the end. -/
def peek : NodeReading (Option Token) := do
  let r ← get
  match r.tokens, r.fault with
  | t :: _, _ => return some t
  | [], some f => throw f
  | [], none => return none

/-- Takes the next token. -/
def drop : NodeReading Unit :=
  modify fun r => { r with tokens := r.tokens.tail }

/-- Takes the next token if it is a certain one. -/
def accept (t : Token) : NodeReading Bool := do
  if (← peek) = some t then
    drop
    return true
  else return false

/-- Whether the next token is one of several. -/
def isAt (ts : List Token) : NodeReading Bool := do
  return (← peek).any ts.contains

/-! ### Properties -/

/-- The name of a tag. -/
def tagName (t : TagText) : NodeReading String := do
  match t.handle with
  | none => return t.suffix
  | some handle =>
    match (← get).handles.lookup handle with
    | some start => return start ++ t.suffix
    | none => fail

/-- The anchor that follows, if there is one. -/
def anchor? : NodeReading (Option String) := do
  match ← peek with
  | some (.anchor name) => drop; return some name
  | _ => return none

/-- The tag that follows, if there is one. -/
def tag? : NodeReading (Option String) := do
  match ← peek with
  | some (.tag t) => drop; return some (← tagName t)
  | _ => return none

/-- An anchor and a tag in either order. -/
def properties : NodeReading Properties := do
  match ← anchor? with
  | some name => return ⟨some name, ← tag?⟩
  | none =>
    match ← tag? with
    | none => return {}
    | some tag => return ⟨← anchor?, some tag⟩

/-- Makes sure that a name is free. -/
def checkFree (anchor : Option String) : NodeReading Unit := do
  match anchor with
  | none => pure ()
  | some name => if ((← get).anchors.lookup name).isSome then fail

/-- Gives a node its name. -/
def register (anchor : Option String) (node : Node) : NodeReading Unit := do
  checkFree anchor
  match anchor with
  | none => pure ()
  | some name => modify fun r => { r with anchors := (name, node) :: r.anchors }

/-! ### Nodes -/

/-- What may come where a node is expected. -/
inductive Site where
  /-- Anything but a block. -/
  | flow
  | block
  /-- A block, also one whose items are not indented. -/
  | value
  deriving DecidableEq, Repr, Inhabited

mutual

/-- A node. -/
def node : Nat → Site → NodeReading Node
  | 0, _ => fail
  | bound + 1, site => do
    match ← peek with
    | some (.alias name) =>
      drop
      match (← get).anchors.lookup name with
      | some n => return n
      | none => fail
    | _ =>
      let p ← properties
      checkFree p.anchor
      let n ← content bound site p
      register p.anchor n
      return n

/-- A node, or an empty one before certain tokens. -/
def nodeUnless : Nat → List Token → Site → NodeReading Node
  | 0, _, _ => fail
  | bound + 1, stops, site => do
    if ← isAt stops then return .empty else node bound site

/-- A node after its properties. -/
def content : Nat → Site → Properties → NodeReading Node
  | 0, _, _ => fail
  | bound + 1, site, p => do
    let token ← peek
    match token with
    | some (.scalar text isPlain) =>
      drop
      return p.scalar text isPlain
    | some .listStart =>
      drop
      return .list (p.collectionTag .list) (← flowItems bound true)
    | some .mapStart =>
      drop
      return .map (p.collectionTag .map) (← flowEntries bound true)
    | _ =>
      if token = some .dash && site = .value then
        return .list (p.collectionTag .list) (← flatItems bound)
      else if token = some .blockListStart && site != .flow then
        drop
        return .list (p.collectionTag .list) (← blockItems bound)
      else if token = some .blockMapStart && site != .flow then
        drop
        return .map (p.collectionTag .map) (← blockEntries bound)
      else if p.anchor.isSome || p.tag.isSome then return p.scalar [] true
      else fail

/-- The items of a block up to its end. -/
def blockItems : Nat → NodeReading (List Node)
  | 0 => fail
  | bound + 1 => do
    if ← accept .dash then
      let n ← nodeUnless bound [.dash, .blockEnd] .block
      return n :: (← blockItems bound)
    else if ← accept .blockEnd then return []
    else fail

/-- The items of a block that is not indented. -/
def flatItems : Nat → NodeReading (List Node)
  | 0 => fail
  | bound + 1 => do
    if ← accept .dash then
      let n ← nodeUnless bound [.dash, .key, .value, .blockEnd] .block
      return n :: (← flatItems bound)
    else return []

/-- The entries of a block up to its end. -/
def blockEntries : Nat → NodeReading (List (Node × Node))
  | 0 => fail
  | bound + 1 => do
    if ← accept .key then
      let stops : List Token := [.key, .value, .blockEnd]
      let k ← nodeUnless bound stops .value
      let v ← if ← accept .value then nodeUnless bound stops .value else pure .empty
      return (k, v) :: (← blockEntries bound)
    else if ← accept .blockEnd then return []
    else fail

/-- The items of a flow collection up to its end. Between two of them there is a comma; a key makes
a map of its own. -/
def flowItems : Nat → Bool → NodeReading (List Node)
  | 0, _ => fail
  | bound + 1, isFirst => do
    if ← accept .listEnd then return []
    if !isFirst then if !(← accept .comma) then fail
    if ← accept .listEnd then return []
    let n ←
      if ← accept .key then do
        let k ← nodeUnless bound [.value, .comma, .listEnd] .flow
        let v ←
          if ← accept .value then nodeUnless bound [.comma, .listEnd] .flow else pure .empty
        pure (Node.map .map [(k, v)])
      else node bound .flow
    return n :: (← flowItems bound false)

/-- The entries of a flow collection up to its end. -/
def flowEntries : Nat → Bool → NodeReading (List (Node × Node))
  | 0, _ => fail
  | bound + 1, isFirst => do
    if ← accept .mapEnd then return []
    if !isFirst then if !(← accept .comma) then fail
    if ← accept .mapEnd then return []
    let entry ←
      if ← accept .key then do
        let k ← nodeUnless bound [.value, .comma, .mapEnd] .flow
        let v ←
          if ← accept .value then nodeUnless bound [.comma, .mapEnd] .flow else pure .empty
        pure (k, v)
      else pure (← node bound .flow, .empty)
    return entry :: (← flowEntries bound false)

end

/-! ### Documents -/

/-- The handles that every document has. -/
def standardHandles : List (String × String) :=
  [("!", "!"), ("!!", "tag:yaml.org,2002:")]

/-- The directives before a document. A version must be the first one, and nothing is declared
twice. -/
def directives : Nat → Bool → List (String × String) → NodeReading (List (String × String))
  | 0, _, _ => fail
  | bound + 1, hasVersion, handles => do
    match ← peek with
    | some (.version major) =>
      if hasVersion || major != 1 then fail
      drop
      directives bound true handles
    | some (.declaration handle start) =>
      if (handles.lookup handle).isSome then fail
      drop
      directives bound hasVersion ((handle, start) :: handles)
    | some .directive =>
      drop
      directives bound hasVersion handles
    | _ => return handles

/-- Takes the marks that end documents. -/
def documentEnds : Nat → NodeReading Unit
  | 0 => fail
  | bound + 1 => do
    if ← accept .documentEnd then documentEnds bound

/-- Whether a token belongs between documents. -/
def isBetweenDocuments : Token → Bool
  | .version _ | .declaration .. | .directive | .documentStart | .documentEnd => true
  | _ => false

/-- The document that tokens make up; there may be none, but not two. -/
def document : NodeReading (Option Node) := do
  let bound := 4 * (← get).tokens.length + 8
  match ← peek with
  | none => return none
  | some token =>
    let isImplicit := !isBetweenDocuments token || token = .documentEnd
    let declared ← if isImplicit then pure [] else directives bound false []
    modify fun r => { r with handles := declared ++ standardHandles }
    if !isImplicit then if !(← accept .documentStart) then fail
    let isEmpty := !isImplicit && (← peek).all isBetweenDocuments
    let n ← if isEmpty then pure .empty else node bound .block
    documentEnds bound
    if (← peek).isSome then fail
    return some n

end NodeReading

/-- The node of a text, if it has one. -/
def Node.ofText? (text : List Char) : Except YamlFault (Option Node) :=
  if text.all isAllowed then
    let start : Cursor := { rest := text }
    let start := if start.peek = byteOrderMark then start.next else start
    let (tokens, fault) := ({ cursor := start : Lexer }).run (text.length + 2)
    (NodeReading.document.run { tokens := tokens, fault := fault }).map Prod.fst
  else .error .malformed

end Chronicle.Yaml
