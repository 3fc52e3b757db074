import Mathlib.Algebra.GroupWithZero.Nat
import ShardManifest.Proofs.Placements

/-!
# How many replicas a specification declares

A standard layout declares as many replicas as its two counts multiply to. An advanced one declares
what its shards list, or what they count if they list none. The walk of a specification meets as
many replicas as it declares.

## Main definitions

- `Layout.declaredReplicas`, `Spec.declaredReplicas`: the declared number of replicas

## Main results

- `Topology.length_placements_walk`, `Topology.length_deployments_walk`
-/

namespace ShardManifest

/-- How many replicas a listed shard declares, given how many it has that says nothing. -/
def ShardSpec.replicasOr (otherwise : Nat) (s : ShardSpec) : Nat :=
  if s.replicas = [] then s.replicasCount.elim otherwise UInt32.toNat else s.replicas.length

/-- How many replicas a layout declares. -/
def Layout.declaredReplicas (l : Layout) : Nat :=
  let perShard := l.replicasCount.elim 1 UInt32.toNat
  match l.kind with
  | .standard => l.shardsCount.elim 1 UInt32.toNat * perShard
  | .advanced => (l.shards.map (ShardSpec.replicasOr perShard)).sum

/-- How many replicas a specification declares. -/
def Spec.declaredReplicas (s : Spec) : Nat :=
  (s.configuration.clusters.map fun c => c.layout.declaredReplicas).sum

theorem ShardPlan.length_replicas_ofSpec (outer : Selection) (count : Nat) (s : ShardSpec) :
    (ofSpec outer count s).replicas.length = s.replicasOr count := by
  rw [ofSpec, ShardSpec.replicasOr]
  by_cases h : s.replicas = []
  · simp [h, equalReplicas]
  · simp [h]

/-- The shards of a cluster have as many replicas as its layout declares. -/
theorem ShardPlan.sum_replicas_ofCluster (outer : Selection) (c : ClusterSpec) :
    ((ofCluster outer c).map fun plan => plan.replicas.length).sum = c.layout.declaredReplicas := by
  rw [ofCluster, Layout.declaredReplicas]
  cases c.layout.kind with
  | standard => simp [equalReplicas]
  | advanced =>
    simp only [List.map_map]
    congr 1
    exact List.map_congr_left fun s _ => length_replicas_ofSpec _ _ s

namespace Topology

theorem sum_replicas_place (outer : Selection) (index : Nat) (c : ClusterSpec) :
    ((c.place outer index).shards.map fun s => s.replicas.length).sum =
      c.layout.declaredReplicas := by
  rw [← ShardPlan.sum_replicas_ofCluster outer, ClusterSpec.place]
  refine congrArg List.sum (map_mapIdx_of_forall ?_ _)
  intro sh plan
  simp [ShardPlan.place]

/-- A walk meets as many replicas as are declared. -/
theorem length_placements_walk (s : Spec) : (walk s).placements.length = s.declaredReplicas := by
  have hcluster : ∀ c : Cluster,
      (c.shards.flatMap (placementsOf c)).length =
        (c.shards.map fun s => s.replicas.length).sum := by
    intro c
    simp [List.length_flatMap, placementsOf]
  rw [placements_eq_flatMap, List.length_flatMap]
  -- a cluster has as many placements wherever it stands
  refine congrArg List.sum (map_mapIdx_of_forall ?_ _)
  intro i c
  rw [hcluster, sum_replicas_place]

theorem length_deployments_walk (s : Spec) : (walk s).deployments.length = s.declaredReplicas := by
  rw [(deployments_perm _).length_eq, List.length_map, length_placements_walk]

end Topology

end ShardManifest
