import ShardManifest.Fingerprint
import ShardManifest.Installation.Spec
import ShardManifest.Log.Event
import ShardManifest.Names

/-!
# Topologies

The topology of a specification is what its layouts come to: clusters of shards of replicas, each
replica with its port, with the templates it selects after all levels have been laid over each other,
and with an identifier. The identifier is made of the fingerprint of that selection and of the
replica's coordinates, so that it is the only one of its installation and changes with the templates.

## Main definitions

- `Replica`, `Shard`, `Cluster`, `Topology`: the walked tree
- `Topology.walk`: the topology of a specification
- `Topology.capacity`: how many identifiers it is expected to have at most
- `Topology.placements`: all replicas, each with its shard and its cluster
- `Topology.deployments`: all identifiers, in ascending order
- `Topology.HasRoom`, `Topology.deployments?`: whether they can be listed, and their list
- `Topology.shardPlaces`: for each identifier the shards that it serves
-/

namespace ShardManifest

/-- The identifier of a replica with given coordinates. -/
def deploymentId (f : Fingerprint) (cluster shard replica : Nat) : String :=
  f.short ++ "-" ++ toString cluster ++ "-" ++ toString shard ++ "-" ++ toString replica

structure Replica where
  deployment : String
  index : Nat
  /-- The port on which other replicas reach it. -/
  port : UInt16
  selection : Selection
deriving DecidableEq, Repr

/-- The fingerprint of what a replica selects. -/
def Replica.fingerprint (r : Replica) : Fingerprint := .of r.selection

structure Shard where
  index : Nat
  weight : UInt32
  /-- Whether an insert goes to one replica only. -/
  internalReplication : Bool
  replicas : List Replica
deriving DecidableEq, Repr

structure Cluster where
  name : String
  shards : List Shard
deriving DecidableEq, Repr

/-- All replicas of an installation, by cluster and shard. -/
structure Topology where
  clusters : List Cluster
deriving DecidableEq, Repr

/-- A replica together with where it stands. -/
structure Placement where
  cluster : Cluster
  shard : Shard
  replica : Replica
deriving DecidableEq, Repr

/-- A shard as a replica is told about it. -/
structure ShardPlace where
  cluster : String
  index : Nat
deriving DecidableEq, Repr

/-- A replica before it has coordinates. -/
structure ReplicaPlan where
  /-- The port on which other replicas reach it. -/
  port : UInt16
  selection : Selection
deriving DecidableEq, Repr

/-- A shard before it has coordinates. -/
structure ShardPlan where
  weight : UInt32
  /-- Whether an insert goes to one replica only. -/
  internalReplication : Bool
  replicas : List ReplicaPlan
deriving DecidableEq, Repr

namespace ShardPlan

/-- Equal replicas, as many as wanted. -/
def equalReplicas (count : Nat) (s : Selection) : List ReplicaPlan :=
  List.replicate count ⟨NamedPort.client.number, s⟩

/-- What a listed shard comes to in a cluster that has a selection and a number of replicas. The
replicas of a shard are those it lists; if it lists none, they are counted. -/
def ofSpec (outer : Selection) (replicasCount : Nat) (s : ShardSpec) : ShardPlan :=
  let selection := s.selection.mergedOver outer
  { weight := s.weight.getD 1
    internalReplication := s.internalReplication.getD true
    replicas :=
      if s.replicas.isEmpty then
        equalReplicas (s.replicasCount.elim replicasCount UInt32.toNat) selection
      else
        s.replicas.map fun r =>
          ⟨r.port.getD NamedPort.client.number, r.selection.mergedOver selection⟩ }

/-- The shards of a cluster. A standard layout does not look at listed shards. -/
def ofCluster (outer : Selection) (c : ClusterSpec) : List ShardPlan :=
  let selection := c.selection.mergedOver outer
  let replicasCount := c.layout.replicasCount.elim 1 UInt32.toNat
  match c.layout.kind with
  | .standard =>
    List.replicate (c.layout.shardsCount.elim 1 UInt32.toNat)
      ⟨1, true, equalReplicas replicasCount selection⟩
  | .advanced => c.layout.shards.map (ofSpec selection replicasCount)

end ShardPlan

def ReplicaPlan.place (cluster shard index : Nat) (p : ReplicaPlan) : Replica where
  deployment := deploymentId (.of p.selection) cluster shard index
  index := index
  port := p.port
  selection := p.selection

def ShardPlan.place (cluster index : Nat) (p : ShardPlan) : Shard where
  index := index
  weight := p.weight
  internalReplication := p.internalReplication
  replicas := p.replicas.mapIdx fun replica r => r.place cluster index replica

def ClusterSpec.place (outer : Selection) (index : Nat) (c : ClusterSpec) : Cluster where
  name := c.name
  shards := (ShardPlan.ofCluster outer c).mapIdx fun shard p => p.place index shard

namespace Topology

def walk (s : Spec) : Topology :=
  ⟨s.configuration.clusters.mapIdx fun index c => c.place s.defaults.selection index⟩

/-- For how many identifiers room is made before a walk lists them. -/
def capacity (s : Spec) : Nat := s.deploymentBound

/-- All replicas, in the order of clusters, shards and replicas. -/
def placements (t : Topology) : List Placement :=
  t.clusters.flatMap fun c => c.shards.flatMap fun s => s.replicas.map fun r => ⟨c, s, r⟩

/-- The report of a replica that got its identifier. -/
def walkedEvent (p : Placement) : Event :=
  .replicaWalked p.replica.deployment p.cluster.name p.shard.index p.replica.index

/-- The topology of a specification, with a report of every replica. -/
def survey (s : Spec) : Logged Topology :=
  ⟨walk s, (walk s).placements.map walkedEvent⟩

/-- All identifiers, ascending. -/
def deployments (t : Topology) : List String :=
  (t.placements.map fun p => p.replica.deployment).mergeSort

/-- Whether room can be made for a number of identifiers. The number is a word of 64 bits, which
loses what is beyond. An identifier takes 24 bytes of a list, and a list takes less than `2 ^ 63`.
Memory has no other limit. -/
def HasRoom (count : Nat) : Prop := count % UInt64.size * 24 < Nat.pow 2 63

instance (count : Nat) : Decidable (HasRoom count) := inferInstanceAs (Decidable (_ < _))

/-- The list of all identifiers. Room is first made for a given number of them, however many there
are. -/
def deployments? (t : Topology) (capacity : Nat) : Option (List String) :=
  if HasRoom capacity then some t.deployments else none

/-- Enters the shard of a replica. -/
def enterShard (d : Dictionary (List ShardPlace)) (p : Placement) : Dictionary (List ShardPlace) :=
  d.insert p.replica.deployment
    ((d.get? p.replica.deployment).getD [] ++ [⟨p.cluster.name, p.shard.index⟩])

/-- For each identifier the shards that it serves. -/
def shardPlaces (t : Topology) : Dictionary (List ShardPlace) :=
  t.placements.foldl enterShard .empty

end Topology

end ShardManifest
