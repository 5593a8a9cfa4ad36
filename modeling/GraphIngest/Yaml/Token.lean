/-!
# Tokens of YAML

The marks of a text, its scalars, and the begins and ends of block collections, which are told by
columns and not written.
-/

namespace GraphIngest.Yaml

/-- How a scalar is written. -/
inductive ScalarStyle where
  | plain
  | quoted
  | literal
  | folded
  deriving DecidableEq, Repr

/-- A token. -/
inductive Token where
  /-- The directive that tells the version of the language. -/
  | version (major minor : Nat)
  /-- The directive that declares what the handle of a tag stands for. -/
  | handle (name stem : String)
  | documentStart
  | documentEnd
  | blockListStart
  | blockMappingStart
  | blockEnd
  | flowListStart
  | flowListEnd
  | flowMappingStart
  | flowMappingEnd
  /-- The mark of an item of a block list. -/
  | item
  | comma
  | key
  | value
  | anchor (name : String)
  | alias (name : String)
  | tag (handle suffix : String)
  | scalar (text : String) (style : ScalarStyle)
  deriving DecidableEq, Repr

end GraphIngest.Yaml
