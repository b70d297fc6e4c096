/-!
# YAML tokens

The words of a YAML text. Where blocks start and end shows in the indentation alone; the tokens say
it with marks of their own, as they say which nodes are keys.
-/
namespace Chronicle.Yaml

/-- How a tag is written: a handle, which may be missing, and what follows it. -/
structure TagText where
  handle : Option String
  suffix : String
  deriving DecidableEq, Repr, Inhabited

/-- A word of a YAML text. -/
inductive Token where
  /-- A directive that gives the version, of which only the first number matters. -/
  | version (major : Nat)
  /-- A directive that declares a handle. -/
  | declaration (handle start : String)
  /-- Any other directive. -/
  | directive
  | documentStart
  | documentEnd
  | blockListStart
  | blockMapStart
  | blockEnd
  | listStart
  | listEnd
  | mapStart
  | mapEnd
  /-- The dash before an item of a block. -/
  | dash
  | comma
  /-- What follows is a key. -/
  | key
  /-- What follows is the value of a key. -/
  | value
  | alias (name : String)
  | anchor (name : String)
  | tag (text : TagText)
  | scalar (text : List Char) (isPlain : Bool)
  deriving DecidableEq, Repr, Inhabited

end Chronicle.Yaml
