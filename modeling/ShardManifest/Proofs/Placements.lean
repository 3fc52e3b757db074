import ShardManifest.Proofs.Identifiers

/-!
# Placements and coordinates

A replica stands at three coordinates: the positions of its cluster, of its shard in the cluster and
of itself in the shard. The walk of a specification gives every replica the identifier of its
coordinates, so no two replicas of a specification share one.

## Main definitions

- `Topology.at?`: the replica at given coordinates

## Main results

- `Topology.mem_placements_iff_at?`: the placements are what stands at some coordinates
- `Topology.coordinates_of_deployment_eq`: an identifier stands at one place only
- `Topology.deployments_ascending`, `Topology.mem_deployments_iff`: the identifiers in order
-/

namespace ShardManifest

/-- A relation between an entry and any later one holds along a row that knows its positions. -/
theorem pairwise_mapIdx {α β : Type} {R : β → β → Prop} {f : Nat → α → β} {l : List α}
    (h : ∀ i j a b, i < j → R (f i a) (f j b)) : (l.mapIdx f).Pairwise R := by
  rw [List.pairwise_iff_getElem]
  intro i j hi hj hij
  rw [List.getElem_mapIdx, List.getElem_mapIdx]
  exact h i j _ _ hij

/-- What is read from entries that know their positions does not depend on the positions. -/
theorem map_mapIdx_of_forall {α β γ : Type} {f : Nat → α → β} {g : β → γ} {h : α → γ}
    (hfg : ∀ i a, g (f i a) = h a) (l : List α) : (l.mapIdx f).map g = l.map h := by
  apply List.ext_getElem
  · simp
  · intro i _ _
    simp [hfg]

/-- The specification that declares clusters and nothing else. -/
def Spec.ofClusters (clusters : List ClusterSpec) : Spec :=
  { Spec.empty with configuration := { Configuration.empty with clusters := clusters } }

/-- The specification of one shard with two replicas. -/
def Spec.pair : Spec :=
  .ofClusters [⟨"main", ⟨.standard, none, some 2, []⟩, .unset⟩]

/-- A cluster that lists no shards, with counts that only a standard layout looks at. -/
def Spec.overbooked : Spec :=
  .ofClusters [⟨"main", ⟨.advanced, some 4294967295, some 4294967295, []⟩, .unset⟩]

namespace Topology

/-- The replica at given coordinates, with where it stands. -/
def at? (t : Topology) (cluster shard replica : Nat) : Option Placement := do
  let c ← t.clusters[cluster]?
  let s ← c.shards[shard]?
  let r ← s.replicas[replica]?
  return ⟨c, s, r⟩

theorem at?_eq_some_iff {t : Topology} {cluster shard replica : Nat} {p : Placement} :
    t.at? cluster shard replica = some p ↔
      t.clusters[cluster]? = some p.cluster ∧ p.cluster.shards[shard]? = some p.shard ∧
        p.shard.replicas[replica]? = some p.replica := by
  obtain ⟨c, s, r⟩ := p
  simp only [at?, bind, Option.bind_eq_some_iff, pure, Option.some.injEq, Placement.mk.injEq]
  constructor
  · rintro ⟨c', hc, s', hs, r', hr, rfl, rfl, rfl⟩
    exact ⟨hc, hs, hr⟩
  · rintro ⟨hc, hs, hr⟩
    exact ⟨c, hc, s, hs, r, hr, rfl, rfl, rfl⟩

theorem mem_placements_iff {t : Topology} {p : Placement} :
    p ∈ t.placements ↔
      p.cluster ∈ t.clusters ∧ p.shard ∈ p.cluster.shards ∧ p.replica ∈ p.shard.replicas := by
  obtain ⟨c, s, r⟩ := p
  simp only [placements, List.mem_flatMap, List.mem_map, Placement.mk.injEq]
  constructor
  · rintro ⟨c', hc, s', hs, r', hr, rfl, rfl, rfl⟩
    exact ⟨hc, hs, hr⟩
  · rintro ⟨hc, hs, hr⟩
    exact ⟨c, hc, s, hs, r, hr, rfl, rfl, rfl⟩

/-- The placements of a topology are what stands at some coordinates. -/
theorem mem_placements_iff_at? {t : Topology} {p : Placement} :
    p ∈ t.placements ↔ ∃ cluster shard replica, t.at? cluster shard replica = some p := by
  rw [mem_placements_iff]
  simp only [at?_eq_some_iff, List.mem_iff_getElem?]
  constructor
  · rintro ⟨⟨c, hc⟩, ⟨s, hs⟩, ⟨r, hr⟩⟩
    exact ⟨c, s, r, hc, hs, hr⟩
  · rintro ⟨c, s, r, hc, hs, hr⟩
    exact ⟨⟨c, hc⟩, ⟨s, hs⟩, ⟨r, hr⟩⟩

/-! ### What stands at coordinates of a walk -/

theorem clusters_walk_getElem? (s : Spec) (i : Nat) :
    (walk s).clusters[i]? =
      s.configuration.clusters[i]?.map fun c => c.place s.defaults.selection i := by
  simp [walk]

theorem shards_place_getElem? (outer : Selection) (cluster i : Nat) (c : ClusterSpec) :
    (c.place outer cluster).shards[i]? =
      (ShardPlan.ofCluster outer c)[i]?.map fun p => p.place cluster i := by
  simp [ClusterSpec.place]

theorem replicas_place_getElem? (cluster shard i : Nat) (p : ShardPlan) :
    (p.place cluster shard).replicas[i]? = p.replicas[i]?.map fun r => r.place cluster shard i := by
  simp [ShardPlan.place]

/-- The plan of what stands at coordinates of a walk. -/
theorem at?_walk_eq_some_iff {s : Spec} {c sh r : Nat} {p : Placement} :
    (walk s).at? c sh r = some p ↔
      ∃ cluster plan replica, s.configuration.clusters[c]? = some cluster ∧
        (ShardPlan.ofCluster s.defaults.selection cluster)[sh]? = some plan ∧
        plan.replicas[r]? = some replica ∧
        p = ⟨cluster.place s.defaults.selection c, plan.place c sh, replica.place c sh r⟩ := by
  rw [at?_eq_some_iff, clusters_walk_getElem?]
  constructor
  · rintro ⟨hc, hs, hr⟩
    obtain ⟨cluster, hcluster, hplace⟩ := Option.map_eq_some_iff.1 hc
    rw [← hplace, shards_place_getElem?] at hs
    obtain ⟨plan, hplan, hshard⟩ := Option.map_eq_some_iff.1 hs
    rw [← hshard, replicas_place_getElem?] at hr
    obtain ⟨replica, hreplica, hrep⟩ := Option.map_eq_some_iff.1 hr
    refine ⟨cluster, plan, replica, hcluster, hplan, hreplica, ?_⟩
    rw [hplace, hshard, hrep]
  · rintro ⟨cluster, plan, replica, hcluster, hplan, hreplica, rfl⟩
    rw [hcluster, shards_place_getElem?, hplan, replicas_place_getElem?, hreplica]
    exact ⟨rfl, rfl, rfl⟩

theorem deployment_of_at?_walk {s : Spec} {c sh r : Nat} {p : Placement}
    (h : (walk s).at? c sh r = some p) :
    p.replica.deployment = deploymentId (.of p.replica.selection) c sh r := by
  obtain ⟨_, _, _, -, -, -, rfl⟩ := at?_walk_eq_some_iff.1 h
  rfl

/-- An identifier stands at one place only, even across specifications. -/
theorem coordinates_of_deployment_eq {s₁ s₂ : Spec} {c₁ sh₁ r₁ c₂ sh₂ r₂ : Nat} {p q : Placement}
    (hp : (walk s₁).at? c₁ sh₁ r₁ = some p) (hq : (walk s₂).at? c₂ sh₂ r₂ = some q)
    (h : p.replica.deployment = q.replica.deployment) : c₁ = c₂ ∧ sh₁ = sh₂ ∧ r₁ = r₂ := by
  rw [deployment_of_at?_walk hp, deployment_of_at?_walk hq] at h
  exact deploymentId_coordinates h

theorem eq_of_deployment_eq {s : Spec} {p q : Placement} (hp : p ∈ (walk s).placements)
    (hq : q ∈ (walk s).placements) (h : p.replica.deployment = q.replica.deployment) : p = q := by
  obtain ⟨c, sh, r, hp⟩ := mem_placements_iff_at?.1 hp
  obtain ⟨c', sh', r', hq⟩ := mem_placements_iff_at?.1 hq
  obtain ⟨rfl, rfl, rfl⟩ := coordinates_of_deployment_eq hp hq h
  exact Option.some.inj (hp.symm.trans hq)

/-! ### No identifier occurs twice -/

def placementsOf (c : Cluster) (s : Shard) : List Placement := s.replicas.map fun r => ⟨c, s, r⟩

theorem placements_eq_flatMap (t : Topology) :
    t.placements = t.clusters.flatMap fun c => c.shards.flatMap (placementsOf c) := rfl

theorem deployment_of_mem_shard {c : Cluster} {plan : ShardPlan} {i sh : Nat} {p : Placement}
    (h : p ∈ placementsOf c (plan.place i sh)) :
    ∃ r, p.replica.deployment = deploymentId (.of p.replica.selection) i sh r := by
  obtain ⟨replica, hreplica, rfl⟩ := List.mem_map.1 h
  obtain ⟨r, hr⟩ := List.mem_iff_getElem?.1 hreplica
  rw [replicas_place_getElem?] at hr
  obtain ⟨_, -, rfl⟩ := Option.map_eq_some_iff.1 hr
  exact ⟨r, rfl⟩

theorem deployment_of_mem_cluster {c : ClusterSpec} {outer : Selection} {i : Nat} {p : Placement}
    (h : p ∈ (c.place outer i).shards.flatMap (placementsOf (c.place outer i))) :
    ∃ sh r, p.replica.deployment = deploymentId (.of p.replica.selection) i sh r := by
  obtain ⟨shard, hshard, hp⟩ := List.mem_flatMap.1 h
  obtain ⟨sh, hsh⟩ := List.mem_iff_getElem?.1 hshard
  rw [shards_place_getElem?] at hsh
  obtain ⟨_, -, rfl⟩ := Option.map_eq_some_iff.1 hsh
  exact ⟨sh, deployment_of_mem_shard hp⟩

theorem pairwise_shard (c : Cluster) (plan : ShardPlan) (i sh : Nat) :
    (placementsOf c (plan.place i sh)).Pairwise
      fun p q => p.replica.deployment ≠ q.replica.deployment := by
  rw [placementsOf, List.pairwise_map]
  refine pairwise_mapIdx fun r r' a b hlt heq => ?_
  obtain ⟨-, -, hr⟩ := deploymentId_coordinates heq
  omega

theorem pairwise_cluster (c : ClusterSpec) (outer : Selection) (i : Nat) :
    ((c.place outer i).shards.flatMap (placementsOf (c.place outer i))).Pairwise
      fun p q => p.replica.deployment ≠ q.replica.deployment := by
  rw [List.pairwise_flatMap]
  constructor
  · intro shard hshard
    obtain ⟨sh, hsh⟩ := List.mem_iff_getElem?.1 hshard
    rw [shards_place_getElem?] at hsh
    obtain ⟨plan, -, rfl⟩ := Option.map_eq_some_iff.1 hsh
    exact pairwise_shard _ plan i sh
  · refine pairwise_mapIdx fun sh sh' a b hlt p hp q hq heq => ?_
    obtain ⟨r, hr⟩ := deployment_of_mem_shard hp
    obtain ⟨r', hr'⟩ := deployment_of_mem_shard hq
    rw [hr, hr'] at heq
    obtain ⟨-, hsh, -⟩ := deploymentId_coordinates heq
    omega

/-- No two replicas of a walk have one identifier. -/
theorem pairwise_placements_walk (s : Spec) :
    (walk s).placements.Pairwise fun p q => p.replica.deployment ≠ q.replica.deployment := by
  -- within a cluster by its shards, across clusters by the first coordinate
  rw [placements_eq_flatMap, List.pairwise_flatMap]
  constructor
  · intro cluster hcluster
    obtain ⟨i, hi⟩ := List.mem_iff_getElem?.1 hcluster
    rw [clusters_walk_getElem?] at hi
    obtain ⟨c, -, rfl⟩ := Option.map_eq_some_iff.1 hi
    exact pairwise_cluster c s.defaults.selection i
  · refine pairwise_mapIdx fun i j a b hlt p hp q hq heq => ?_
    obtain ⟨sh, r, hr⟩ := deployment_of_mem_cluster hp
    obtain ⟨sh', r', hr'⟩ := deployment_of_mem_cluster hq
    rw [hr, hr'] at heq
    obtain ⟨hi, -, -⟩ := deploymentId_coordinates heq
    omega

/-! ### The identifiers in order -/

theorem deployments_perm (t : Topology) :
    t.deployments.Perm (t.placements.map fun p => p.replica.deployment) :=
  List.mergeSort_perm _ _

theorem mem_deployments_iff {t : Topology} {d : String} :
    d ∈ t.deployments ↔ ∃ p ∈ t.placements, p.replica.deployment = d := by
  rw [(deployments_perm t).mem_iff, List.mem_map]

theorem deployments_nodup (s : Spec) : (walk s).deployments.Nodup :=
  (deployments_perm _).nodup_iff.2 (List.pairwise_map.2 (pairwise_placements_walk s))

theorem deployments_ascending (s : Spec) : (walk s).deployments.Pairwise (· < ·) := by
  have trans : ∀ a b c : String, decide (a ≤ b) = true → decide (b ≤ c) = true →
      decide (a ≤ c) = true := by
    intro a b c hab hbc
    exact decide_eq_true (String.le_trans (of_decide_eq_true hab) (of_decide_eq_true hbc))
  have total : ∀ a b : String, (decide (a ≤ b) || decide (b ≤ a)) = true := by
    intro a b
    rw [Bool.or_eq_true, decide_eq_true_iff, decide_eq_true_iff]
    exact String.le_total a b
  have sorted : (walk s).deployments.Pairwise fun a b => decide (a ≤ b) = true :=
    List.pairwise_mergeSort trans total _
  refine (sorted.and (deployments_nodup s)).imp ?_
  rintro a b ⟨hle, hne⟩
  exact lt_of_le_of_ne (of_decide_eq_true hle) hne

end Topology

end ShardManifest
