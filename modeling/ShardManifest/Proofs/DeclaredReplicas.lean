import ShardManifest.Proofs.ReplicaCount

/-!
# What is declared at coordinates

A walk expands layouts by nested loops: it repeats shards and replicas as often as they are counted,
and lays the selections of the levels over each other on its way down. What it comes to can also be
looked up. Whether a specification declares a replica at given coordinates, and with which
templates, port and weight, is read off the entries above those coordinates. The walk has exactly
the declared replicas, and lists them by their coordinates.

## Main definitions

- `Coordinates`, `Coordinates.Before`: where a replica stands, and the lexicographic order of that
- `Topology.located`: all replicas of a topology with their coordinates
- `Layout.Declares`, `Spec.Declares`: a replica is declared at coordinates
- `ClusterSpec.Describes`: what a cluster says about the replica at coordinates

## Main results

- `Topology.exists_ascending_coordinates`: replicas are listed in the order of their coordinates
- `ShardPlan.exists_replica_iff`, `ShardPlan.weight_of_getElem?`: the plans of a cluster hold what
  it declares
- `Topology.walk_meets_declaration`: so does the walk of a specification
-/

namespace ShardManifest

/-- Where a replica stands: its cluster, its shard in the cluster and itself in the shard. -/
structure Coordinates where
  cluster : Nat
  shard : Nat
  replica : Nat
deriving DecidableEq, Repr

/-- The lexicographic order of coordinates. -/
def Coordinates.Before (x y : Coordinates) : Prop :=
  x.cluster < y.cluster ∨ x.cluster = y.cluster ∧
    (x.shard < y.shard ∨ x.shard = y.shard ∧ x.replica < y.replica)

/-! ### Positions in a row -/

/-- Items that know their positions stand in the order of their positions. -/
theorem pairwise_zipIdx {α : Type} (l : List α) : l.zipIdx.Pairwise fun a b => a.2 < b.2 := by
  have hpositions : (l.zipIdx.map Prod.snd).Pairwise (· < ·) := by
    rw [List.zipIdx_map_snd]
    exact List.pairwise_lt_range'
  exact List.pairwise_map.1 hpositions

theorem flatMap_zipIdx_fst {α β : Type} (f : α → List β) (l : List α) :
    (l.zipIdx.flatMap fun a => f a.1) = l.flatMap f := by
  conv_rhs => rw [← List.zipIdx_map_fst 0 l, List.flatMap_map]

namespace Topology

/-- The replica at given coordinates. -/
def standsAt? (t : Topology) (x : Coordinates) : Option Placement :=
  t.at? x.cluster x.shard x.replica

/-- All replicas with their coordinates, by cluster and shard. -/
def located (t : Topology) : List (Coordinates × Placement) :=
  t.clusters.zipIdx.flatMap fun c => c.1.shards.zipIdx.flatMap fun s =>
    s.1.replicas.zipIdx.map fun r => (⟨c.2, s.2, r.2⟩, ⟨c.1, s.1, r.1⟩)

theorem map_snd_located (t : Topology) : t.located.map Prod.snd = t.placements := by
  have hreplicas : ∀ (c : Cluster) (s : Shard),
      (s.replicas.zipIdx.map fun r => (⟨c, s, r.1⟩ : Placement)) =
        s.replicas.map fun r => ⟨c, s, r⟩ := by
    intro c s
    conv_rhs => rw [← List.zipIdx_map_fst 0 s.replicas, List.map_map]
    rfl
  simp only [located, placements, List.map_flatMap, List.map_map, Function.comp_def, hreplicas]
  rw [flatMap_zipIdx_fst fun c : Cluster => c.shards.zipIdx.flatMap fun s =>
    s.1.replicas.map fun r => (⟨c, s.1, r⟩ : Placement)]
  refine List.flatMap_congr fun c _ => ?_
  rw [flatMap_zipIdx_fst fun s : Shard => s.replicas.map fun r => (⟨c, s, r⟩ : Placement)]

theorem mem_located_iff {t : Topology} {x : Coordinates} {p : Placement} :
    (x, p) ∈ t.located ↔ t.standsAt? x = some p := by
  obtain ⟨i, j, k⟩ := x
  rw [standsAt?, at?_eq_some_iff]
  simp only [located, List.mem_flatMap, List.mem_map, Prod.exists, Prod.mk.injEq,
    Coordinates.mk.injEq, List.mem_zipIdx_iff_getElem?]
  constructor
  · rintro ⟨c, _, hc, s, _, hs, r, _, hr, ⟨rfl, rfl, rfl⟩, rfl⟩
    exact ⟨hc, hs, hr⟩
  · rintro ⟨hc, hs, hr⟩
    exact ⟨_, _, hc, _, _, hs, _, _, hr, ⟨rfl, rfl, rfl⟩, rfl⟩

/-- Coordinates ascend: replica by replica in a shard, shard by shard in a cluster. -/
theorem pairwise_before_located (t : Topology) :
    t.located.Pairwise fun a b => a.1.Before b.1 := by
  rw [located, List.pairwise_flatMap]
  constructor
  · intro c _
    rw [List.pairwise_flatMap]
    constructor
    · intro s _
      rw [List.pairwise_map]
      exact (pairwise_zipIdx s.1.replicas).imp fun hlt => .inr ⟨rfl, .inr ⟨rfl, hlt⟩⟩
    · refine (pairwise_zipIdx c.1.shards).imp fun hlt a ha b hb => ?_
      obtain ⟨_, -, rfl⟩ := List.mem_map.1 ha
      obtain ⟨_, -, rfl⟩ := List.mem_map.1 hb
      exact .inr ⟨rfl, .inl hlt⟩
  · refine (pairwise_zipIdx t.clusters).imp fun hlt a ha b hb => ?_
    obtain ⟨_, -, ha⟩ := List.mem_flatMap.1 ha
    obtain ⟨_, -, hb⟩ := List.mem_flatMap.1 hb
    obtain ⟨_, -, rfl⟩ := List.mem_map.1 ha
    obtain ⟨_, -, rfl⟩ := List.mem_map.1 hb
    exact .inl hlt

/-- The replicas of a topology are listed in the order of their coordinates. -/
theorem exists_ascending_coordinates (t : Topology) :
    ∃ xs : List Coordinates, xs.Pairwise Coordinates.Before ∧
      (∀ x, x ∈ xs ↔ ∃ p, t.standsAt? x = some p) ∧
      t.placements.map some = xs.map t.standsAt? := by
  refine ⟨t.located.map Prod.fst, ?order, ?members, ?listed⟩
  case order => exact List.pairwise_map.2 t.pairwise_before_located
  case members =>
    intro x
    simp only [List.mem_map, Prod.exists, exists_and_right, exists_eq_right, mem_located_iff]
  case listed =>
    rw [← map_snd_located, List.map_map, List.map_map]
    exact List.map_congr_left fun e he => (mem_located_iff.1 he).symm

end Topology

/-! ### Declarations -/

namespace Layout

/-- How many replicas a shard has that says nothing about them. -/
def replicasPerShard (l : Layout) : Nat := l.replicasCount.elim 1 UInt32.toNat

/-- The entry of a shard. In a standard layout shards have none, whatever it lists. -/
def shardEntry? (l : Layout) (shard : Nat) : Option ShardSpec :=
  match l.kind with
  | .standard => none
  | .advanced => l.shards[shard]?

/-- The entry of a replica, if its shard has one and lists replicas. -/
def replicaEntry? (l : Layout) (shard replica : Nat) : Option ReplicaSpec :=
  (l.shardEntry? shard).bind fun s => s.replicas[replica]?

/-- A layout declares a replica. -/
def Declares (l : Layout) (shard replica : Nat) : Prop :=
  match l.kind with
  | .standard => shard < l.shardsCount.elim 1 UInt32.toNat ∧ replica < l.replicasPerShard
  | .advanced => ∃ s, l.shards[shard]? = some s ∧ replica < s.replicasOr l.replicasPerShard

end Layout

/-- A specification declares a replica. -/
def Spec.Declares (s : Spec) (x : Coordinates) : Prop :=
  ∃ c, s.configuration.clusters[x.cluster]? = some c ∧ c.layout.Declares x.shard x.replica

namespace ClusterSpec

/-- What selects templates for a replica, from the inside: the entries of the replica and of its
shard, as far as there are any, the cluster, and what the cluster is declared in. -/
def levels (c : ClusterSpec) (outer : Selection) (shard replica : Nat) : List Selection :=
  ((c.layout.replicaEntry? shard replica).map ReplicaSpec.selection).toList ++
    ((c.layout.shardEntry? shard).map ShardSpec.selection).toList ++ [c.selection, outer]

/-- What a cluster says about the replica at a position of a shard: each template is the first one
set, and the port, the weight and the replication are those of the entries or the usual ones. -/
structure Describes (c : ClusterSpec) (outer : Selection) (shard replica : Nat) (p : Placement) :
    Prop where
  name : p.cluster.name = c.name
  shardIndex : p.shard.index = shard
  replicaIndex : p.replica.index = replica
  podTemplate : p.replica.selection.podTemplate =
    (c.levels outer shard replica).findSome? Selection.podTemplate
  claimTemplate : p.replica.selection.claimTemplate =
    (c.levels outer shard replica).findSome? Selection.claimTemplate
  port : p.replica.port = ((c.layout.replicaEntry? shard replica).bind ReplicaSpec.port).getD 9000
  weight : p.shard.weight = ((c.layout.shardEntry? shard).bind ShardSpec.weight).getD 1
  internalReplication : p.shard.internalReplication =
    ((c.layout.shardEntry? shard).bind ShardSpec.internalReplication).getD true

end ClusterSpec

/-! ### Levels laid over each other -/

namespace Selection

/-- Levels laid over each other, the innermost one first. -/
def merged (levels : List Selection) : Selection := levels.foldr mergedOver .unset

/-- The first level that sets a name decides it. -/
theorem field_merged {field : Selection → Option String} (hunset : field .unset = none)
    (hmerged : ∀ inner outer, field (inner.mergedOver outer) = (field inner).or (field outer))
    (levels : List Selection) : field (merged levels) = levels.findSome? field := by
  induction levels with
  | nil => exact hunset
  | cons s rest ih =>
    have hlaid : field (merged (s :: rest)) = (field s).or (field (merged rest)) :=
      hmerged s (merged rest)
    rw [hlaid, ih, List.findSome?_cons]
    cases field s <;> rfl

theorem merged_pair (inner outer : Selection) : merged [inner, outer] = inner.mergedOver outer := by
  simp [merged]

end Selection

/-! ### The plans of a cluster -/

theorem NamedPort.number_client : client.number = 9000 := rfl

namespace ShardPlan

theorem getElem?_replicate_eq_some_iff {α : Type} {count i : Nat} {a b : α} :
    (List.replicate count a)[i]? = some b ↔ i < count ∧ b = a := by
  rw [List.getElem?_replicate]
  by_cases h : i < count <;> simp [h, eq_comm]

theorem getElem?_equalReplicas {count i : Nat} {s : Selection} {r : ReplicaPlan} :
    (equalReplicas count s)[i]? = some r ↔ i < count ∧ r = ⟨9000, s⟩ :=
  getElem?_replicate_eq_some_iff

/-- A listed shard has the replicas that it lists, or as many as are counted. -/
theorem getElem?_replicas_ofSpec {outer : Selection} {count i : Nat} {s : ShardSpec}
    {r : ReplicaPlan} :
    (ofSpec outer count s).replicas[i]? = some r ↔ i < s.replicasOr count ∧
      r = ⟨(s.replicas[i]?.bind ReplicaSpec.port).getD 9000, .merged
        ((s.replicas[i]?.map ReplicaSpec.selection).toList ++ [s.selection, outer])⟩ := by
  rw [ofSpec, ShardSpec.replicasOr]
  by_cases hnone : s.replicas = []
  · simp [hnone, getElem?_equalReplicas, Selection.merged_pair]
  · simp only [List.isEmpty_eq_false_iff.2 hnone, Bool.false_eq_true, if_false, if_neg hnone,
      List.getElem?_map]
    cases hentry : s.replicas[i]? with
    | none =>
      have hlength : ¬i < s.replicas.length := by simpa using hentry
      simp [hlength]
    | some entry =>
      have hlength : i < s.replicas.length := (List.getElem?_eq_some_iff.1 hentry).1
      simp [hlength, Selection.merged, NamedPort.number_client, eq_comm]

variable {outer : Selection} {c : ClusterSpec} {shard replica : Nat}

/-- The plan of the replica at a position, if there is one. -/
def planned (outer : Selection) (c : ClusterSpec) (shard replica : Nat) : ReplicaPlan :=
  ⟨((c.layout.replicaEntry? shard replica).bind ReplicaSpec.port).getD 9000,
    .merged (c.levels outer shard replica)⟩

/-- A cluster has plans for the replicas that it declares, and for no others. -/
theorem exists_replica_iff {r : ReplicaPlan} :
    (∃ plan, (ofCluster outer c)[shard]? = some plan ∧ plan.replicas[replica]? = some r) ↔
      c.layout.Declares shard replica ∧ r = planned outer c shard replica := by
  rw [ofCluster, planned, ClusterSpec.levels, Layout.replicaEntry?, Layout.shardEntry?,
    Layout.Declares]
  cases c.layout.kind with
  | standard =>
    simp [getElem?_replicate_eq_some_iff, getElem?_equalReplicas, Selection.merged_pair,
      Layout.replicasPerShard, and_assoc]
  | advanced =>
    simp only [List.getElem?_map, Option.map_eq_some_iff]
    constructor
    · rintro ⟨plan, ⟨s, hs, rfl⟩, hr⟩
      obtain ⟨hlt, rfl⟩ := getElem?_replicas_ofSpec.1 hr
      refine ⟨⟨s, hs, hlt⟩, ?_⟩
      simp [hs, Selection.merged]
    · rintro ⟨⟨s, hs, hlt⟩, rfl⟩
      refine ⟨_, ⟨s, hs, rfl⟩, getElem?_replicas_ofSpec.2 ⟨hlt, ?_⟩⟩
      simp [hs, Selection.merged]

/-- A shard has the weight and the replication of its entry. -/
theorem weight_of_getElem? {plan : ShardPlan} (h : (ofCluster outer c)[shard]? = some plan) :
    plan.weight = ((c.layout.shardEntry? shard).bind ShardSpec.weight).getD 1 ∧
      plan.internalReplication =
        ((c.layout.shardEntry? shard).bind ShardSpec.internalReplication).getD true := by
  rw [ofCluster] at h
  rw [Layout.shardEntry?]
  cases hkind : c.layout.kind with
  | standard =>
    rw [hkind] at h
    obtain ⟨-, rfl⟩ := getElem?_replicate_eq_some_iff.1 h
    exact ⟨rfl, rfl⟩
  | advanced =>
    rw [hkind] at h
    simp only [List.getElem?_map, Option.map_eq_some_iff] at h
    obtain ⟨s, hs, rfl⟩ := h
    simp [hs, ofSpec]

end ShardPlan

namespace Topology

theorem exists_standsAt?_walk_iff {s : Spec} {x : Coordinates} :
    (∃ p, (walk s).standsAt? x = some p) ↔ s.Declares x := by
  simp only [standsAt?, at?_walk_eq_some_iff]
  constructor
  · rintro ⟨p, cluster, plan, replica, hcluster, hplan, hreplica, -⟩
    exact ⟨cluster, hcluster, (ShardPlan.exists_replica_iff.1 ⟨plan, hplan, hreplica⟩).1⟩
  · rintro ⟨cluster, hcluster, hdeclares⟩
    obtain ⟨plan, hplan, hreplica⟩ := ShardPlan.exists_replica_iff.2 ⟨hdeclares, rfl⟩
    exact ⟨_, cluster, plan, _, hcluster, hplan, hreplica, rfl⟩

/-- What stands at coordinates of a walk is what the cluster there says. -/
theorem describes_of_standsAt?_walk {s : Spec} {x : Coordinates} {p : Placement}
    (h : (walk s).standsAt? x = some p) :
    ∃ c, s.configuration.clusters[x.cluster]? = some c ∧
      c.Describes s.defaults.selection x.shard x.replica p := by
  obtain ⟨c, plan, replica, hcluster, hplan, hreplica, rfl⟩ := at?_walk_eq_some_iff.1 h
  obtain ⟨-, rfl⟩ := ShardPlan.exists_replica_iff.1 ⟨plan, hplan, hreplica⟩
  obtain ⟨hweight, hreplication⟩ := ShardPlan.weight_of_getElem? hplan
  exact ⟨c, hcluster, {
    name := rfl
    shardIndex := rfl
    replicaIndex := rfl
    podTemplate := Selection.field_merged rfl (fun _ _ => rfl) _
    claimTemplate := Selection.field_merged rfl (fun _ _ => rfl) _
    port := rfl
    weight := hweight
    internalReplication := hreplication }⟩

/-- The walk of a specification has a replica at coordinates exactly if one is declared there, and
the replica is as it is declared. All of them are listed by their coordinates, each one once. -/
theorem walk_meets_declaration (s : Spec) :
    (∀ x, (∃ p, (walk s).standsAt? x = some p) ↔ s.Declares x) ∧
    (∀ x p, (walk s).standsAt? x = some p → ∃ c, s.configuration.clusters[x.cluster]? = some c ∧
      c.Describes s.defaults.selection x.shard x.replica p) ∧
    ∃ xs : List Coordinates, xs.Pairwise Coordinates.Before ∧ (∀ x, x ∈ xs ↔ s.Declares x) ∧
      (walk s).placements.map some = xs.map (walk s).standsAt? := by
  refine ⟨fun _ => exists_standsAt?_walk_iff, fun _ _ => describes_of_standsAt?_walk, ?order⟩
  case order =>
    obtain ⟨xs, hascending, hmembers, hlisted⟩ := exists_ascending_coordinates (walk s)
    exact ⟨xs, hascending, fun x => (hmembers x).trans exists_standsAt?_walk_iff, hlisted⟩

end Topology

/-- A cluster that lists two replicas in one shard and counts those of another one, and a standard
cluster that lists a shard in vain. -/
def Spec.tiered : Spec :=
  { ofClusters [
      ⟨"tiered", ⟨.advanced, none, some 3,
        [⟨some 3, some false, ⟨some "shard", none⟩, some 7,
          [⟨none, .unset⟩, ⟨some 9440, ⟨some "replica", none⟩⟩]⟩,
        ⟨none, none, .unset, none, []⟩]⟩, .unset⟩,
      ⟨"plain", ⟨.standard, none, none, [⟨some 5, none, .unset, some 2, []⟩]⟩, .unset⟩] with
    defaults := ⟨false, ⟨none, some "data"⟩⟩ }

theorem Topology.walk_meets_declaration_tiered :
    (∃ p, (walk .tiered).standsAt? ⟨0, 0, 1⟩ = some p ∧
      p.replica.selection = ⟨some "replica", some "data"⟩ ∧ p.replica.port = 9440 ∧
      p.shard.weight = 3 ∧ p.shard.internalReplication = false) ∧
    (∃ p, (walk .tiered).standsAt? ⟨0, 1, 2⟩ = some p) ∧
    ¬∃ p, (walk .tiered).standsAt? ⟨1, 0, 1⟩ = some p := by
  obtain ⟨hdeclared, hdescribed, -⟩ := walk_meets_declaration .tiered
  refine ⟨?listed, (hdeclared ⟨0, 1, 2⟩).2 ⟨_, rfl, _, rfl, by decide⟩, ?beyond⟩
  case listed =>
    obtain ⟨p, hp⟩ := (hdeclared ⟨0, 0, 1⟩).2 ⟨_, rfl, _, rfl, by decide⟩
    obtain ⟨_, hcluster, hp'⟩ := hdescribed _ p hp
    cases hcluster
    have hselection : p.replica.selection = ⟨some "replica", some "data"⟩ := by
      rw [Selection.mk.injEq]
      exact ⟨hp'.podTemplate, hp'.claimTemplate⟩
    exact ⟨p, hp, hselection, hp'.port, hp'.weight, hp'.internalReplication⟩
  case beyond =>
    rw [hdeclared]
    rintro ⟨_, hcluster, hdeclares⟩
    cases hcluster
    obtain ⟨-, hreplica⟩ := hdeclares
    exact absurd hreplica (by decide)

end ShardManifest
