import ShardManifest.Source.Node

/-!
# Tokens of YAML texts

What a YAML text consists of once its layout has been taken into account: indentation has become the
beginnings and ends of blocks, and keys are marked also where the text does not mark them.
-/

namespace ShardManifest.Yaml

inductive Token where
  | version (major minor : Nat)
  /-- A directive that lets a handle stand for the beginning of tags. -/
  | shorthand (handle expansion : String)
  | documentStart
  | documentEnd
  /-- The beginning of a list that is laid out by indentation. -/
  | blockList
  /-- The beginning of a mapping that is laid out by indentation. -/
  | blockMapping
  | blockEnd
  | flowList
  | flowListEnd
  | flowMapping
  | flowMappingEnd
  | item
  | comma
  | key
  | value
  | repeats (name : String)
  /-- The name of the node that follows. -/
  | anchor (name : String)
  /-- The tag of the node that follows. -/
  | tag (handle suffix : String)
  | scalar (text : String) (style : ScalarStyle)
  | ending
deriving DecidableEq, Repr

end ShardManifest.Yaml
