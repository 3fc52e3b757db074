import Mathlib.Algebra.Order.BigOperators.Group.List
import Mathlib.Tactic.NormNum.Pow
import ShardManifest.Proofs.DeclaredReplicas

/-!
# The bound on the number of replicas

Room for the identifiers of a walk is made before their number is known. The bound looks at every
layout as if it were of both kinds and takes the greater number, and of a listed shard it takes the
greater of what is listed and what is counted. So it is never too small, and it is exact where there
is nothing to choose between.

## Main results

- `Layout.declaredReplicas_le_bound`, `Layout.declaredReplicas_eq_bound`: the bound of one layout
- `Spec.deploymentBound_eq_sum`: the bound of a specification is the sum of those
- `Topology.hasRoom_iff`: for how many identifiers there is room
- `Topology.deployments_within_capacity`: no walk has more identifiers than there is room for
-/

namespace ShardManifest

/-- A listed shard declares no more replicas than it is taken to have. -/
theorem ShardSpec.replicasOr_le_bound (otherwise : Nat) (s : ShardSpec) :
    s.replicasOr otherwise ≤ Spec.shardBound otherwise s := by
  rw [replicasOr, Spec.shardBound]
  split
  · exact Nat.le_max_right _ _
  · exact Nat.le_max_left _ _

namespace Layout

theorem bound_eq_max (l : Layout) :
    Spec.layoutBound l = max
      (l.shardsCount.elim 1 UInt32.toNat * l.replicasCount.elim 1 UInt32.toNat)
      (l.shards.map (Spec.shardBound (l.replicasCount.elim 1 UInt32.toNat))).sum := by
  rw [Spec.layoutBound, List.sum_eq_foldr, List.foldr_map]

/-- A layout of either kind declares no more replicas than its bound. -/
theorem declaredReplicas_le_bound (l : Layout) : l.declaredReplicas ≤ Spec.layoutBound l := by
  rw [bound_eq_max, declaredReplicas]
  cases l.kind with
  | standard => exact Nat.le_max_left _ _
  | advanced =>
    have hshards : (l.shards.map (ShardSpec.replicasOr (l.replicasCount.elim 1 UInt32.toNat))).sum ≤
        (l.shards.map (Spec.shardBound (l.replicasCount.elim 1 UInt32.toNat))).sum :=
      List.sum_le_sum fun s _ => s.replicasOr_le_bound _
    exact hshards.trans (Nat.le_max_right _ _)

/-- The bound of a standard layout that lists no shards is what the layout declares. -/
theorem declaredReplicas_eq_bound {l : Layout} (hkind : l.kind = .standard)
    (hshards : l.shards = []) : l.declaredReplicas = Spec.layoutBound l := by
  rw [bound_eq_max, declaredReplicas, hkind, hshards]
  exact (Nat.max_zero _).symm

theorem count_lt (count : Option UInt32) : count.elim 1 UInt32.toNat < 2 ^ 32 := by
  cases count with
  | none => decide
  | some n => exact n.toNat_lt

/-- The product of two counts fits into 64 bits. -/
theorem product_lt (l : Layout) :
    l.shardsCount.elim 1 UInt32.toNat * l.replicasCount.elim 1 UInt32.toNat < 2 ^ 64 := by
  calc l.shardsCount.elim 1 UInt32.toNat * l.replicasCount.elim 1 UInt32.toNat
      < 2 ^ 32 * 2 ^ 32 := Nat.mul_lt_mul'' (count_lt l.shardsCount) (count_lt l.replicasCount)
    _ = 2 ^ 64 := by norm_num

end Layout

theorem Spec.deploymentBound_eq_sum (s : Spec) :
    s.deploymentBound = (s.configuration.clusters.map fun c => layoutBound c.layout).sum := by
  rw [deploymentBound, List.sum_eq_foldr, List.foldr_map]

/-- As long as the number fits into a word, room can be made for `2 ^ 63 / 24` identifiers. -/
theorem Topology.hasRoom_iff {count : Nat} (h : count < UInt64.size) :
    HasRoom count ↔ count ≤ 384307168202282325 := by
  have hbytes : Nat.pow 2 63 = 9223372036854775808 := rfl
  rw [HasRoom, Nat.mod_eq_of_lt h, hbytes]
  omega

/-- A walk has no more identifiers than there is room for, whatever its layouts are. It has as many
if all layouts are standard and list no shards. The counts of no layout multiply to more than 64
bits hold. -/
theorem Topology.deployments_within_capacity (s : Spec) :
    capacity s = s.deploymentBound ∧
    (walk s).deployments.length ≤ capacity s ∧
    ((∀ c ∈ s.configuration.clusters, c.layout.kind = .standard ∧ c.layout.shards = []) →
      (walk s).deployments.length = capacity s) ∧
    ∀ c ∈ s.configuration.clusters,
      c.layout.shardsCount.elim 1 UInt32.toNat * c.layout.replicasCount.elim 1 UInt32.toNat <
        2 ^ 64 := by
  rw [length_deployments_walk, capacity, Spec.deploymentBound_eq_sum, Spec.declaredReplicas]
  refine ⟨rfl, ?sound, ?exact, fun c _ => c.layout.product_lt⟩
  case sound => exact List.sum_le_sum fun c _ => c.layout.declaredReplicas_le_bound
  case exact =>
    intro hplain
    refine congrArg List.sum (List.map_congr_left fun c hc => ?_)
    obtain ⟨hkind, hshards⟩ := hplain c hc
    exact Layout.declaredReplicas_eq_bound hkind hshards

theorem Topology.deployments_within_capacity_tiered :
    ((walk .pair).deployments.length = capacity .pair ∧ capacity .pair = 2) ∧
      (walk .tiered).deployments.length = 6 ∧ capacity .tiered = 12 := by
  obtain ⟨-, -, hexact, -⟩ := deployments_within_capacity .pair
  have htiered : (walk .tiered).deployments.length = Spec.tiered.declaredReplicas :=
    length_deployments_walk .tiered
  exact ⟨⟨hexact (by decide), rfl⟩, htiered, rfl⟩

end ShardManifest
