import ShardManifest.Topology
import ShardManifest.Xml.Writer

/-!
# Clusters, coordination and macros as fragments

What a server is told about the clusters of its installation, about the coordination service, and
about its own place.

## Main definitions

- `Addressing`: how replicas name each other
- `Fragment.remoteServers`, `Fragment.zookeeper`, `Fragment.macros`
-/

namespace ShardManifest

inductive Addressing where
  /-- By the Service of the other replica. -/
  | service
  /-- By the fully qualified name of that Service in a namespace. -/
  | qualified (inNamespace : String)
deriving DecidableEq, Repr

namespace Addressing

def host : Addressing → String → String
  | service, deployment => Names.replicaService deployment
  | qualified inNamespace, deployment => Names.qualifiedHost inNamespace deployment

end Addressing

namespace Fragment

open Xml

def replicaElement (a : Addressing) (r : Replica) : Element :=
  .branch "replica"
    [.leaf "host" (a.host r.deployment), .leaf "port" (toString r.port.toNat)]

def shardElement (a : Addressing) (s : Shard) : Element :=
  .branch "shard" <|
    .leaf "internal_replication" (if s.internalReplication then "true" else "false")
      :: .leaf "weight" (toString s.weight.toNat)
      :: s.replicas.map (replicaElement a)

def clusterElement (a : Addressing) (c : Cluster) : Element :=
  .branch c.name (c.shards.map (shardElement a))

/-- The clusters of a topology; empty if it has none. -/
def remoteServers (t : Topology) (a : Addressing) : String :=
  if t.clusters.isEmpty then ""
  else Xml.document [.branch "remote_servers" (t.clusters.map (clusterElement a))]

/-- A member of the coordination service. -/
def zookeeperElement (z : ZookeeperNode) : Element :=
  .branch "node"
    [.leaf "host" z.host, .leaf "port" (toString (z.port.getD defaultZookeeperPort).toNat)]

/-- The coordination service and the queue of distributed statements; empty if the service has no
members. -/
def zookeeper (installation : String) (z : Zookeeper) : String :=
  if z.nodes.isEmpty then ""
  else
    Xml.document
      [.branch "zookeeper" (z.nodes.map zookeeperElement),
        .branch "distributed_ddl" [.leaf "path" (Names.statementQueue installation)]]

/-- The place of one replica: the installation, the position of each shard that it serves, and the
replica itself. -/
def macros (installation deployment : String) (places : List ShardPlace) : String :=
  Xml.document
    [.branch "macros" <|
      .leaf "installation" installation
        :: (places.map fun p => .leaf (p.cluster ++ "-shard") (toString p.index))
        ++ [.leaf "replica" deployment]]

/-- The macros of every replica of a topology. -/
def allMacros (installation : String) (t : Topology) : Dictionary String :=
  t.shardPlaces.mapWithKey (macros installation)

end Fragment

end ShardManifest
