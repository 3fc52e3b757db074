import Std.Data.String.ToNat
import ShardManifest.Proofs.ClusterDefinition
import ShardManifest.Proofs.DocumentNodes

/-!
# Decoding the cluster definition

A server knows the other replicas from the cluster definition alone. Decoding goes through the
elements level by level and takes exactly the elements that a level may have: it goes by where an
element stands and not by its tag, for the name of a cluster may be any of the fixed tags. What it
finds is the topology as far as servers are told about it, and so the text of a definition tells all
of that.

## Main definitions

- `ServedReplica`, `ServedShard`, `ServedCluster`: a cluster as servers are told about it
- `Cluster.served`: what they are to be told about a cluster of a topology
- `Xml.Element.servedClusters?`: decodes a cluster definition

## Main results

- `Xml.Element.servedShard?_shardElement`: a shard is decoded as the one that was written
- `Fragment.servedClusters?_serversRead`: a definition is decoded as its topology
- `Fragment.remoteServers_decodes`: so for every checked specification, and its text tells all of it
-/

namespace ShardManifest

structure ServedReplica where
  host : String
  port : Nat
deriving DecidableEq, Repr

structure ServedShard where
  internalReplication : Bool
  weight : Nat
  replicas : List ServedReplica
deriving DecidableEq, Repr

/-- A cluster as servers are told about it. -/
structure ServedCluster where
  name : String
  shards : List ServedShard
deriving DecidableEq, Repr

/-- The host of a replica: its Service, or the fully qualified name of that in a namespace. -/
def Addressing.servedHost : Addressing → String → String
  | service, deployment => "chi-service-" ++ deployment
  | qualified inNamespace, deployment =>
    "chi-service-" ++ deployment ++ "." ++ inNamespace ++ ".svc.cluster.local"

section Served

variable (a : Addressing)

def Replica.served (r : Replica) : ServedReplica := ⟨a.servedHost r.deployment, r.port.toNat⟩

def Shard.served (s : Shard) : ServedShard :=
  ⟨s.internalReplication, s.weight.toNat, s.replicas.map (Replica.served a)⟩

/-- What servers are to be told about a cluster. -/
def Cluster.served (c : Cluster) : ServedCluster := ⟨c.name, c.shards.map (Shard.served a)⟩

end Served

theorem Addressing.host_eq_servedHost (a : Addressing) (deployment : String) :
    a.host deployment = a.servedHost deployment := by
  cases a with
  | service => rfl
  | qualified inNamespace =>
    simp only [host, servedHost, Names.qualifiedHost, Names.replicaService, Names.namespaceDomain,
      String.append_assoc]

/-! ### Decoding -/

namespace Xml.Element

def flag? : String → Option Bool
  | "true" => some true
  | "false" => some false
  | _ => none

def servedReplica? : Element → Option ServedReplica
  | branch "replica" [leaf "host" host, leaf "port" port] => do return ⟨host, ← port.toNat?⟩
  | _ => none

def servedShard? : Element → Option ServedShard
  | branch "shard" (leaf "internal_replication" flag :: leaf "weight" weight :: replicas) => do
    return ⟨← flag? flag, ← weight.toNat?, ← replicas.mapM servedReplica?⟩
  | _ => none

/-- Decodes a cluster. One without shards holds nothing but white space. -/
def servedCluster? : Element → Option ServedCluster
  | branch name shards => do return ⟨name, ← shards.mapM servedShard?⟩
  | leaf name text => if text.toList.all isBlank then some ⟨name, []⟩ else none

/-- Decodes a cluster definition. -/
def servedClusters? : Element → Option (List ServedCluster)
  | branch "yandex" [branch "remote_servers" clusters] => clusters.mapM servedCluster?
  | _ => none

end Xml.Element

namespace Fragment

open Xml Element

variable (a : Addressing)

theorem servedReplica?_replicaElement (r : Replica) :
    servedReplica? (replicaElement a r) = some (r.served a) := by
  simp [replicaElement, servedReplica?, Replica.served, a.host_eq_servedHost, Nat.toNat?_repr]

theorem servedShard?_shardElement (s : Shard) :
    servedShard? (shardElement a s) = some (s.served a) := by
  have hreplicas : (s.replicas.map (replicaElement a)).mapM servedReplica? =
      some (s.replicas.map (Replica.served a)) :=
    Document.mapM_map_eq_some_map fun r _ => servedReplica?_replicaElement a r
  have hflag : flag? (if s.internalReplication then "true" else "false") =
      some s.internalReplication := by
    cases s.internalReplication <;> rfl
  simp [shardElement, servedShard?, Shard.served, hflag, hreplicas, Nat.toNat?_repr]

/-- A cluster is decoded as it was written, also if it has no shards and is read as a leaf. -/
theorem servedCluster?_clusterElement (depth : Nat) (c : Cluster) :
    servedCluster? ((clusterElement a c).asRead depth) = some (c.served a) := by
  rw [clusterElement, Element.asRead]
  split
  next h =>
    have hnone : c.shards = [] := by simpa using h
    rw [servedCluster?, if_pos (isBlank_gap depth), Cluster.served, hnone]
    rfl
  next =>
    have hread : asReadAll (depth + 1) (c.shards.map (shardElement a)) =
        c.shards.map (shardElement a) := by
      rw [asReadAll_eq_map, List.map_map]
      exact List.map_congr_left fun s _ => asRead_shardElement a (depth + 1) s
    have hshards : (c.shards.map (shardElement a)).mapM servedShard? =
        some (c.shards.map (Shard.served a)) :=
      Document.mapM_map_eq_some_map fun s _ => servedShard?_shardElement a s
    rw [hread, servedCluster?, hshards]
    rfl

/-- A cluster definition is decoded as its topology, cluster by cluster. -/
theorem servedClusters?_serversRead (t : Topology) :
    servedClusters? (.branch "yandex" [serversRead a t]) =
      some (t.clusters.map (Cluster.served a)) :=
  Document.mapM_map_eq_some_map fun c _ => servedCluster?_clusterElement a 2 c

/-- The text of a definition tells all that servers are told about its topology. -/
theorem served_eq_of_remoteServers_eq {t t' : Topology} {a a' : Addressing}
    (ht : ∀ c ∈ t.clusters, isElementName c.name = true)
    (ht' : ∀ c ∈ t'.clusters, isElementName c.name = true)
    (h : remoteServers t a = remoteServers t' a') :
    t.clusters.map (Cluster.served a) = t'.clusters.map (Cluster.served a') := by
  have hiff : t.clusters = [] ↔ t'.clusters = [] := by
    rw [← remoteServers_eq_empty_iff (a := a), h, remoteServers_eq_empty_iff]
  by_cases hnone : t.clusters = []
  · rw [hnone, hiff.1 hnone]
    rfl
  · -- both are read as one tree, and the tree is decoded as either topology
    have hread := read?_remoteServers a ht hnone
    rw [h, read?_remoteServers a' ht' (mt hiff.2 hnone), Option.some.injEq] at hread
    have hdecoded := servedClusters?_serversRead a t
    rw [← hread, servedClusters?_serversRead] at hdecoded
    exact (Option.some.inj hdecoded).symm

/-- The cluster definition of a checked specification is decoded as its walk: the declared clusters
in their order, each with its shards and their replicas, under either way of naming them. There is
no definition if no clusters are declared. Two specifications with one text agree on all of it. -/
theorem remoteServers_decodes {s : Spec} (hs : s.validate = .ok ()) (a : Addressing) :
    (s.configuration.clusters ≠ [] →
      ∃ root, read? (remoteServers (Topology.walk s) a) = some root ∧
        root.servedClusters? = some ((Topology.walk s).clusters.map (Cluster.served a))) ∧
    (Topology.walk s).clusters.map Cluster.name = s.configuration.clusters.map ClusterSpec.name ∧
    (s.configuration.clusters = [] → remoteServers (Topology.walk s) a = "") ∧
    ∀ s' a', s'.validate = .ok () →
      remoteServers (Topology.walk s') a' = remoteServers (Topology.walk s) a →
        (Topology.walk s').clusters.map (Cluster.served a') =
          (Topology.walk s).clusters.map (Cluster.served a) := by
  have hnamed : ∀ c ∈ (Topology.walk s).clusters, isElementName c.name = true :=
    fun _ => Topology.isElementName_of_mem_clusters hs
  refine ⟨?decodes, ?names, ?nothing, ?text⟩
  case decodes =>
    intro hne
    exact ⟨_, read?_remoteServers a hnamed (by simpa [Topology.walk] using hne),
      servedClusters?_serversRead a _⟩
  case names =>
    have hname : ∀ i (c : ClusterSpec), (c.place s.defaults.selection i).name = c.name :=
      fun _ _ => rfl
    exact map_mapIdx_of_forall hname s.configuration.clusters
  case nothing =>
    intro hnone
    exact remoteServers_eq_empty_iff.2 (by simp [Topology.walk, hnone])
  case text =>
    intro s' a' hs' heq
    exact served_eq_of_remoteServers_eq
      (fun _ => Topology.isElementName_of_mem_clusters hs') hnamed heq

/-- Clusters that are called like the fixed tags, without shards, without replicas and with one. -/
def tagNamed : Spec :=
  .ofClusters [⟨"replica", ⟨.standard, some 0, none, []⟩, .unset⟩,
    ⟨"shard", ⟨.standard, some 2, some 0, []⟩, .unset⟩,
    ⟨"remote_servers", ⟨.advanced, none, none,
      [⟨some 3, some false, .unset, none, [⟨some 9440, .unset⟩]⟩]⟩, .unset⟩]

theorem remoteServers_decodes_tagNamed :
    tagNamed.validate = .ok () ∧
    ∃ root, read? (remoteServers (Topology.walk tagNamed) .service) = some root ∧
      root.servedClusters? = some [⟨"replica", []⟩, ⟨"shard", [⟨true, 1, []⟩, ⟨true, 1, []⟩]⟩,
        ⟨"remote_servers", [⟨false, 3, [⟨"chi-service-" ++ deploymentId (.of .unset) 2 0 0,
          9440⟩]⟩]⟩] := by
  have hvalid : tagNamed.validate = .ok () := rfl
  obtain ⟨root, hroot, hserved⟩ := (remoteServers_decodes hvalid .service).1 (by decide)
  exact ⟨hvalid, root, hroot, hserved⟩

end Fragment

end ShardManifest
