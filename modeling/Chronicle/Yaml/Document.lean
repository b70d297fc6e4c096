import Chronicle.Octets.Base64
import Chronicle.Yaml.Number
import Chronicle.Yaml.Reader
import Chronicle.Yaml.Value

/-!
# The value of a YAML text

A text is read into a node, and the node into a value. Where several parts of a tree have no value,
the one that is met first counts when the tree is read level by level.
-/
namespace Chronicle.Yaml

/-! ### Scalars -/

/-- The date or the moment of a scalar that has the form of one. -/
def timestampOf (d : Date) (clock : Option Plain.ClockText) : Except YamlFault Value :=
  match clock with
  | none => if d.Valid then .ok (.date d) else .error (.noSuchDate d)
  | some c =>
    if 86400 ≤ (c.zone.getD 0).natAbs then .error (.noSuchZone (c.zone.getD 0))
    else if ¬ d.Valid then .error (.noSuchDate d)
    else if 23 < c.hour then .error (.noSuchTime .hour)
    else if 59 < c.minute then .error (.noSuchTime .minute)
    else if 59 < c.second then .error (.noSuchTime .second)
    else
      let seconds := c.hour * 3600 + c.minute * 60 + c.second
      .ok (.moment (d.days * dayLength + (seconds * 1000000 + c.micros : Nat)) c.zone)

/-- The truth value of a word in any case. -/
def boolOf (cs : List Char) : Except YamlFault Bool :=
  let low := Text.lowerCase cs
  match Plain.booleans.lookup (String.ofList low) with
  | some b => .ok b
  | none => .error (.noTruth low)

/-- The octets that a scalar of ASCII stands for. -/
def octetsOf (cs : List Char) : Except YamlFault (List UInt8) :=
  match if cs.all (·.toNat < 0x80) then Base64.decodeLoosely cs else none with
  | some content => .ok content
  | none => .error .malformed

/-- The value of a scalar. -/
def ofScalar (tag : Tag) (cs : List Char) : Except YamlFault Value :=
  match tag with
  | .text => .ok (.text (String.ofList cs))
  | .null => .ok .null
  | .bool => (boolOf cs).map .bool
  | .int => (intOf cs).map .int
  | .float => (floatOf cs).map .float
  | .timestamp =>
    match Plain.timestamp? (Plain.chomp cs) with
    | some (d, clock) => timestampOf d clock
    | none => .error .noTimestamp
  | .octets => (octetsOf cs).map .octets
  | .list | .map | .pairs | .set | .merge | .equals | .other => .error .malformed

/-! ### Nodes -/

/-- A value, or a stand-in for it with what went wrong first: at which level, and how. -/
structure Built (α : Type) where
  value : α
  fault : Option (Nat × YamlFault) := none
  deriving Repr, Inhabited

namespace Built

variable {α β : Type}

/-- The fault that is met first. -/
def earlier (a b : Option (Nat × YamlFault)) : Option (Nat × YamlFault) :=
  match a, b with
  | some x, some y => if y.1 < x.1 then b else a
  | none, _ => b
  | _, none => a

/-- The value of a step that may fail at a level. -/
def ofExcept [Inhabited α] (level : Nat) : Except YamlFault α → Built α
  | .ok a => ⟨a, none⟩
  | .error f => ⟨default, some (level, f)⟩

/-- A collection that cannot be built. -/
def broken (level : Nat) : Built Value :=
  ⟨.list [], some (level, .malformed)⟩

/-- Makes something else of a value. -/
def map (f : α → β) (b : Built α) : Built β :=
  ⟨f b.value, b.fault⟩

/-- Items after another one. -/
def cons (b : Built α) (rest : Built (List α)) : Built (List α) :=
  ⟨b.value :: rest.value, earlier b.fault rest.fault⟩

/-- A pair of values, the first of which is built first. -/
def pair (a : Built α) (b : Built β) : Built (α × β) :=
  ⟨(a.value, b.value), earlier a.fault b.fault⟩

/-- The entries of a map with one more, whose key and value are met at a level. -/
def enter (level : Nat) (done : Built (List (Value × Value))) (key value : Built Value) :
    Built (List (Value × Value)) :=
  let keyFault := if key.value.isKey then key.fault else some (level, .malformed)
  ⟨Value.setEntry done.value key.value value.value,
    earlier done.fault (earlier keyFault value.fault)⟩

/-- The value that a map has under a tag, given its entries together with those that it merges. -/
def ofMap (level : Nat) (tag : Tag) (entries : List (Node × Node))
    (found : Built (List (Value × Value))) : Built Value :=
  match tag with
  | .list | .pairs => .broken (level + 1)
  | .map => if Node.canMerge entries then found.map .map else .broken (level + 1)
  | .set =>
    if Node.canMerge entries then found.map fun es => .set (es.map Prod.fst)
    else .broken (level + 1)
  | _ =>
    match Node.textAmong? entries with
    | none => .broken level
    | some text =>
      .ofExcept level (if tag = .timestamp then .error .mappedTimestamp else ofScalar tag text)

end Built

mutual

/-- The value that a node has under a tag, where the node is met at a level. What is wrong with a
collection is met one level later. -/
def build (level : Nat) (tag : Tag) : Node → Built Value
  | .scalar _ text =>
    if tag.isCollection then .broken (level + 1) else .ofExcept level (ofScalar tag text)
  | .list _ items =>
    match tag with
    | .list => (buildItems (level + 1) items).map .list
    | .pairs => (buildPairs (level + 1) items).map .pairs
    | _ => .broken (if tag.isCollection then level + 1 else level)
  | .map _ entries =>
    .ofMap level tag entries
      (buildOwn (level + 1) (buildMerged (level + 1) ⟨[], none⟩ entries) entries)

/-- The values of the items of a list. -/
def buildItems (level : Nat) : List Node → Built (List Value)
  | [] => ⟨[], none⟩
  | n :: rest => .cons (build level n.tag n) (buildItems level rest)

/-- The pairs that the items of a list stand for. -/
def buildPairs (level : Nat) : List Node → Built (List (Value × Value))
  | [] => ⟨[], none⟩
  | n :: rest => .cons (buildPair level n) (buildPairs level rest)

/-- The pair that a node stands for. -/
def buildPair (level : Nat) : Node → Built (Value × Value)
  | .map _ entries => buildAlone level entries
  | _ => ⟨default, some (level, .malformed)⟩

/-- The key and the value of a map with one entry. -/
def buildAlone (level : Nat) : List (Node × Node) → Built (Value × Value)
  | [(k, v)] => .pair (build level k.tag k) (build level v.tag v)
  | _ => ⟨default, some (level, .malformed)⟩

/-- The entries of a map other than those that it merges, after others. -/
def buildOwn (level : Nat) (done : Built (List (Value × Value))) :
    List (Node × Node) → Built (List (Value × Value))
  | [] => done
  | (k, v) :: rest =>
    buildOwn level
      (if k.isMerge then done else done.enter level (build level k.keyTag k) (build level v.tag v))
      rest

/-- The entries that a map merges, after others. -/
def buildMerged (level : Nat) (done : Built (List (Value × Value))) :
    List (Node × Node) → Built (List (Value × Value))
  | [] => done
  | (k, v) :: rest =>
    buildMerged level (if k.isMerge then buildContribution level done v else done) rest

/-- The entries of a node that is merged, after others. -/
def buildContribution (level : Nat) (done : Built (List (Value × Value))) :
    Node → Built (List (Value × Value))
  | .scalar .. => done
  | .list _ items => buildContributions level done items
  | .map _ entries => buildOwn level (buildMerged level done entries) entries

/-- The entries of nodes that are merged, the last one first, after others. -/
def buildContributions (level : Nat) (done : Built (List (Value × Value))) :
    List Node → Built (List (Value × Value))
  | [] => done
  | n :: rest => buildContribution level (buildContributions level done rest) n

end

/-- The value of a text. One without a document has no value. -/
def ofText (text : List Char) : Except YamlFault Value := do
  match ← Node.ofText? text with
  | none => return .null
  | some n =>
    let found := build 0 n.tag n
    match found.fault with
    | some (_, f) => throw f
    | none => return found.value

end Chronicle.Yaml
