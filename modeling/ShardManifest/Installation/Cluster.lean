import ShardManifest.Installation.Selection

/-!
# Clusters

A cluster is laid out in shards of replicas, either as a number of equal shards with a number of
equal replicas each, or as a list of shards that may list their replicas.

## Main definitions

- `Layout`, `LayoutKind`: how a cluster is laid out
- `ShardSpec`, `ReplicaSpec`: shards and replicas as they are listed
- `ClusterSpec`: a cluster
-/

namespace ShardManifest

/-- How the shards of a cluster are given. -/
inductive LayoutKind where
  | standard
  | advanced
deriving DecidableEq, Repr

namespace LayoutKind

def name : LayoutKind → String
  | standard => "Standard"
  | advanced => "Advanced"

def read? (node : Node) : Option LayoutKind := do
  let chosen ← node.choice?
  if chosen = standard.name then some standard
  else if chosen = advanced.name then some advanced
  else none

end LayoutKind

structure ReplicaSpec where
  /-- The port on which other replicas reach it. -/
  port : Option UInt16
  selection : Selection
deriving DecidableEq, Repr

namespace ReplicaSpec

def read? (node : Node) : Option ReplicaSpec := do
  let m ← node.members? ["port", "deployment"]
  return {
    port := ← m.optional? "port" Node.word16?
    selection := ← m.orDefault? "deployment" .unset Selection.read? }

def document (r : ReplicaSpec) : Document :=
  .mapping <|
    Document.whenSet "port" (fun n => .integer n.toNat) r.port
    ++ Document.always "deployment" r.selection.document

end ReplicaSpec

structure ShardSpec where
  weight : Option UInt32
  /-- Whether an insert goes to one replica only. -/
  internalReplication : Option Bool
  selection : Selection
  /-- How many replicas it has if none is listed. -/
  replicasCount : Option UInt32
  replicas : List ReplicaSpec
deriving DecidableEq, Repr

namespace ShardSpec

def read? (node : Node) : Option ShardSpec := do
  let m ← node.members? ["weight", "internalReplication", "deployment", "replicasCount", "replicas"]
  return {
    weight := ← m.optional? "weight" Node.word32?
    internalReplication := ← m.optional? "internalReplication" Node.bool?
    selection := ← m.orDefault? "deployment" .unset Selection.read?
    replicasCount := ← m.optional? "replicasCount" Node.word32?
    replicas := ← m.orDefault? "replicas" [] (Node.listOf? ReplicaSpec.read?) }

def document (s : ShardSpec) : Document :=
  .mapping <|
    Document.whenSet "weight" (fun n => .integer n.toNat) s.weight
    ++ Document.whenSet "internalReplication" .bool s.internalReplication
    ++ Document.always "deployment" s.selection.document
    ++ Document.whenSet "replicasCount" (fun n => .integer n.toNat) s.replicasCount
    ++ Document.whenAny "replicas" ReplicaSpec.document s.replicas

end ShardSpec

structure Layout where
  kind : LayoutKind
  /-- How many shards a standard layout has. -/
  shardsCount : Option UInt32
  /-- How many replicas a shard has that says nothing about them. -/
  replicasCount : Option UInt32
  shards : List ShardSpec
deriving DecidableEq, Repr

namespace Layout

def simplest : Layout := ⟨.standard, none, none, []⟩

def read? (node : Node) : Option Layout := do
  let m ← node.members? ["type", "shardsCount", "replicasCount", "shards"]
  return {
    kind := ← m.orDefault? "type" .standard LayoutKind.read?
    shardsCount := ← m.optional? "shardsCount" Node.word32?
    replicasCount := ← m.optional? "replicasCount" Node.word32?
    shards := ← m.orDefault? "shards" [] (Node.listOf? ShardSpec.read?) }

def document (l : Layout) : Document :=
  .mapping <|
    Document.always "type" (.text l.kind.name)
    ++ Document.whenSet "shardsCount" (fun n => .integer n.toNat) l.shardsCount
    ++ Document.whenSet "replicasCount" (fun n => .integer n.toNat) l.replicasCount
    ++ Document.whenAny "shards" ShardSpec.document l.shards

end Layout

structure ClusterSpec where
  /-- Its name, which becomes an element of a configuration file. -/
  name : String
  layout : Layout
  selection : Selection
deriving DecidableEq, Repr

namespace ClusterSpec

def read? (node : Node) : Option ClusterSpec := do
  let m ← node.members? ["name", "layout", "deployment"]
  return {
    name := ← m.required? "name" Node.text?
    layout := ← m.orDefault? "layout" .simplest Layout.read?
    selection := ← m.orDefault? "deployment" .unset Selection.read? }

def document (c : ClusterSpec) : Document :=
  .mapping
    [("name", .text c.name), ("layout", c.layout.document), ("deployment", c.selection.document)]

end ClusterSpec

end ShardManifest
