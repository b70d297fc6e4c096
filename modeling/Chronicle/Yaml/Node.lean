/-!
# Nodes

A YAML text is a tree of scalars, lists and maps, each with a tag that says what kind of value it
is. The tag of a plain scalar follows from its text. A map takes over the entries of the maps that
it merges; its own entries come later and so prevail. A node is kept as it is written: what its tag
makes of it, and what is merged, is settled where its value is built.
-/
namespace Chronicle.Yaml

/-- A kind of value. -/
inductive Tag where
  | null | bool | int | float | timestamp | text
  /-- Octets, which are written as letters. -/
  | octets
  | list | map
  /-- A list of maps with one entry each. -/
  | pairs
  /-- A map of which only the keys count. -/
  | set
  /-- The key of maps to be merged. -/
  | merge
  /-- An equals sign, which is a text where it is a key. -/
  | equals
  /-- Any other kind, of which there are no values. -/
  | other
  deriving DecidableEq, Repr, Inhabited

/-- Whether the values of a kind have parts, which are looked at later than the value itself. -/
def Tag.isCollection : Tag → Bool
  | .list | .map | .pairs | .set => true
  | _ => false

/-- A node. -/
inductive Node where
  | scalar (tag : Tag) (text : List Char)
  | list (tag : Tag) (items : List Node)
  | map (tag : Tag) (entries : List (Node × Node))
  deriving Repr, Inhabited

namespace Node

/-- The node of nothing. -/
def empty : Node :=
  .scalar .null []

/-- The tag of a node. -/
def tag : Node → Tag
  | .scalar tag _ | .list tag _ | .map tag _ => tag

/-- Whether a node is a map. -/
def isMap : Node → Bool
  | .map .. => true
  | _ => false

/-- The tag that a node has as a key. -/
def keyTag (n : Node) : Tag :=
  if n.tag = .equals then .text else n.tag

/-- Whether a node is the key of maps to be merged. -/
def isMerge (n : Node) : Bool :=
  n.tag == .merge

mutual

/-- The text of a node where a scalar is expected. -/
def text? : Node → Option (List Char)
  | .scalar _ text => some text
  | .list .. => none
  | .map _ entries => textAmong? entries

/-- The text of a map where a scalar is expected: that of its first value under an equals sign. -/
def textAmong? : List (Node × Node) → Option (List Char)
  | [] => none
  | (k, v) :: rest => if k.tag = .equals then text? v else textAmong? rest

end

mutual

/-- Whether a node can be merged: it is a map or a list of maps, and so is what these merge. -/
def canBeMerged : Node → Bool
  | .scalar .. => false
  | .list _ items => canAllBeMerged items
  | .map _ entries => canMerge entries

/-- Whether the items of a list are maps that can be merged. -/
def canAllBeMerged : List Node → Bool
  | [] => true
  | n :: rest => n.isMap && canBeMerged n && canAllBeMerged rest

/-- Whether what is under the merge keys of a map can be merged. -/
def canMerge : List (Node × Node) → Bool
  | [] => true
  | (k, v) :: rest => (!k.isMerge || canBeMerged v) && canMerge rest

end

end Node

end Chronicle.Yaml
