import ShardManifest.Proofs.BundleFiles
import ShardManifest.Proofs.ReplicaObjects

/-!
# Scaling out

An installation is scaled out when clusters, shards and replicas are added behind those that there
are, by raising a count or by listing more. A replica keeps its coordinates and what it selects, so
it keeps its identifier, and its objects do not know of the replicas that came.

## Main definitions

- `Extends`: a row whose entries stay in place, as they were or grown, with more behind them
- `ShardSpec.ScalesTo`, `Layout.ScalesTo`, `ClusterSpec.ScalesTo`, `Installation.ScalesTo`: one
  level scaled out, with all that is below it

## Main results

- `Installation.ScalesTo.trans`: scaling out twice is scaling out
- `Topology.at?_walk_withClusters`: a replica of a walk stays at its coordinates
- `Installation.replicas_of_scalesTo`: the objects of the replicas stay the same
-/

namespace ShardManifest

/-! ### Rows that grow -/

/-- Every entry of a row is found at its position in the other row, as it was or grown. What the
other row has more stands behind these entries. -/
def Extends {α : Type} (grown : α → α → Prop) (before after : List α) : Prop :=
  ∀ (i : Nat) (a : α), before[i]? = some a → ∃ b, after[i]? = some b ∧ grown a b

namespace Extends

variable {α : Type} {grown : α → α → Prop}

theorem append (h : ∀ a, grown a a) (l added : List α) : Extends grown l (l ++ added) := by
  intro i a hi
  obtain ⟨hlt, -⟩ := List.getElem?_eq_some_iff.1 hi
  exact ⟨a, by rw [List.getElem?_append_left hlt, hi], h a⟩

theorem refl (h : ∀ a, grown a a) (l : List α) : Extends grown l l :=
  fun _ a hi => ⟨a, hi, h a⟩

/-- Relations of growth that compose do so along rows. -/
theorem trans {first second both : α → α → Prop} {l m n : List α} (hlm : Extends first l m)
    (hmn : Extends second m n) (compose : ∀ a b c, first a b → second b c → both a c) :
    Extends both l n := by
  intro i a hi
  obtain ⟨b, hb, hab⟩ := hlm i a hi
  obtain ⟨c, hc, hbc⟩ := hmn i b hb
  exact ⟨c, hc, compose a b c hab hbc⟩

end Extends

/-! ### The levels of an installation -/

/-- How many replicas a shard has that lists none, if `otherwise` is what its layout says. -/
def ShardSpec.countOr (s : ShardSpec) (otherwise : Nat) : Nat :=
  s.replicasCount.elim otherwise UInt32.toNat

def Layout.shardCount (l : Layout) : Nat := l.shardsCount.elim 1 UInt32.toNat

/-- How many replicas a shard has that says nothing about them. -/
def Layout.replicaCount (l : Layout) : Nat := l.replicasCount.elim 1 UInt32.toNat

/-- A shard is scaled out by a higher count of replicas, of its own or of its layout, or by more
replicas behind those it lists. A shard that lists none must not begin to: listed replicas would
come in place of counted ones. -/
structure ShardSpec.ScalesTo (otherwise otherwise' : Nat) (s s' : ShardSpec) : Prop where
  weight : s'.weight = s.weight
  internalReplication : s'.internalReplication = s.internalReplication
  selection : s'.selection = s.selection
  count : s.countOr otherwise ≤ s'.countOr otherwise'
  replicas : s.replicas <+: s'.replicas
  counted : s.replicas = [] → s'.replicas = []

/-- A layout is scaled out by higher counts, by its shards and by more shards behind them. -/
structure Layout.ScalesTo (l l' : Layout) : Prop where
  kind : l'.kind = l.kind
  shardCount : l.shardCount ≤ l'.shardCount
  replicaCount : l.replicaCount ≤ l'.replicaCount
  shards : Extends (ShardSpec.ScalesTo l.replicaCount l'.replicaCount) l.shards l'.shards

structure ClusterSpec.ScalesTo (c c' : ClusterSpec) : Prop where
  name : c'.name = c.name
  selection : c'.selection = c.selection
  layout : c.layout.ScalesTo c'.layout

/-- A specification with other clusters, and the same in everything else. -/
def Spec.withClusters (s : Spec) (clusters : List ClusterSpec) : Spec :=
  { s with configuration := { s.configuration with clusters } }

/-- An installation with other clusters, and the same in everything else. -/
def Installation.withClusters (i : Installation) (clusters : List ClusterSpec) : Installation :=
  { i with spec := i.spec.withClusters clusters }

/-- An installation is scaled out by its clusters and by more clusters behind them. -/
def Installation.ScalesTo (i i' : Installation) : Prop :=
  ∃ clusters, i' = i.withClusters clusters ∧
    Extends ClusterSpec.ScalesTo i.spec.configuration.clusters clusters

theorem ShardSpec.ScalesTo.refl {n m : Nat} (h : n ≤ m) (s : ShardSpec) : s.ScalesTo n m s where
  weight := rfl
  internalReplication := rfl
  selection := rfl
  count := by
    rw [countOr, countOr]
    cases s.replicasCount with
    | none => exact h
    | some _ => exact Nat.le_refl _
  replicas := List.prefix_refl _
  counted := id

theorem ShardSpec.ScalesTo.trans {n m k : Nat} {s t u : ShardSpec} (hst : s.ScalesTo n m t)
    (htu : t.ScalesTo m k u) : s.ScalesTo n k u where
  weight := htu.weight.trans hst.weight
  internalReplication := htu.internalReplication.trans hst.internalReplication
  selection := htu.selection.trans hst.selection
  count := Nat.le_trans hst.count htu.count
  replicas := hst.replicas.trans htu.replicas
  counted := htu.counted ∘ hst.counted

theorem Layout.ScalesTo.refl (l : Layout) : l.ScalesTo l where
  kind := rfl
  shardCount := Nat.le_refl _
  replicaCount := Nat.le_refl _
  shards := .refl (ShardSpec.ScalesTo.refl (Nat.le_refl _)) _

theorem Layout.ScalesTo.trans {l m n : Layout} (hlm : l.ScalesTo m) (hmn : m.ScalesTo n) :
    l.ScalesTo n where
  kind := hmn.kind.trans hlm.kind
  shardCount := Nat.le_trans hlm.shardCount hmn.shardCount
  replicaCount := Nat.le_trans hlm.replicaCount hmn.replicaCount
  shards := hlm.shards.trans hmn.shards fun _ _ _ => ShardSpec.ScalesTo.trans

theorem ClusterSpec.ScalesTo.refl (c : ClusterSpec) : c.ScalesTo c :=
  ⟨rfl, rfl, .refl c.layout⟩

theorem ClusterSpec.ScalesTo.trans {c d e : ClusterSpec} (hcd : c.ScalesTo d)
    (hde : d.ScalesTo e) : c.ScalesTo e :=
  ⟨hde.name.trans hcd.name, hde.selection.trans hcd.selection, hcd.layout.trans hde.layout⟩

theorem Installation.scalesTo_append (i : Installation) (added : List ClusterSpec) :
    i.ScalesTo (i.withClusters (i.spec.configuration.clusters ++ added)) :=
  ⟨_, rfl, .append ClusterSpec.ScalesTo.refl _ _⟩

/-- Scaling out twice is scaling out, so every combination of steps is covered by one. -/
theorem Installation.ScalesTo.trans {i j k : Installation} (hij : i.ScalesTo j)
    (hjk : j.ScalesTo k) : i.ScalesTo k := by
  obtain ⟨clusters, rfl, hclusters⟩ := hij
  obtain ⟨clusters', rfl, hclusters'⟩ := hjk
  exact ⟨clusters', rfl, hclusters.trans hclusters' fun _ _ _ => ClusterSpec.ScalesTo.trans⟩

/-! ### Plans of shards -/

theorem replicate_prefix_replicate {α : Type} {n m : Nat} (h : n ≤ m) (a : α) :
    List.replicate n a <+: List.replicate m a := by
  rw [List.prefix_replicate_iff, List.length_replicate]
  exact ⟨h, rfl⟩

namespace ShardPlan

/-- The replicas of a shard stay in front. -/
theorem replicas_ofSpec_prefix (outer : Selection) {n n' : Nat} {s s' : ShardSpec}
    (h : s.ScalesTo n n' s') : (ofSpec outer n s).replicas <+: (ofSpec outer n' s').replicas := by
  simp only [ofSpec, h.selection]
  by_cases hs : s.replicas = []
  · -- counted before, counted after
    simp only [hs, h.counted hs, List.isEmpty_nil, if_true, equalReplicas]
    exact replicate_prefix_replicate h.count _
  · -- listed before, listed after
    obtain ⟨added, hadded⟩ := h.replicas
    have hs' : s'.replicas ≠ [] := by
      rw [← hadded]
      exact List.append_ne_nil_of_left_ne_nil hs _
    simp only [List.isEmpty_eq_false_iff.2 hs, List.isEmpty_eq_false_iff.2 hs', Bool.false_eq_true,
      if_false]
    exact h.replicas.map _

/-- The shards of a cluster stay in place, and their replicas in front. -/
theorem ofCluster_extends (outer : Selection) {c c' : ClusterSpec} (h : c.ScalesTo c') :
    Extends (fun p p' => p.replicas <+: p'.replicas) (ofCluster outer c) (ofCluster outer c') := by
  intro sh plan hplan
  simp only [ofCluster, h.layout.kind, h.selection] at hplan ⊢
  cases hkind : c.layout.kind with
  | standard =>
    simp only [hkind, List.getElem?_replicate, Option.ite_none_right_eq_some,
      Option.some.injEq] at hplan ⊢
    obtain ⟨hsh, rfl⟩ := hplan
    refine ⟨_, ⟨Nat.lt_of_lt_of_le hsh h.layout.shardCount, rfl⟩, ?_⟩
    exact replicate_prefix_replicate h.layout.replicaCount _
  | advanced =>
    simp only [hkind, List.getElem?_map, Option.map_eq_some_iff] at hplan ⊢
    obtain ⟨s, hs, rfl⟩ := hplan
    obtain ⟨s', hs', hscales⟩ := h.layout.shards sh s hs
    exact ⟨_, ⟨s', hs', rfl⟩, replicas_ofSpec_prefix _ hscales⟩

end ShardPlan

/-! ### Walks -/

theorem getElem?_of_prefix {α : Type} {l m : List α} (h : l <+: m) {i : Nat} {a : α}
    (hi : l[i]? = some a) : m[i]? = some a := by
  obtain ⟨added, rfl⟩ := h
  obtain ⟨hlt, -⟩ := List.getElem?_eq_some_iff.1 hi
  rw [List.getElem?_append_left hlt, hi]

namespace Topology

variable {s : Spec} {clusters : List ClusterSpec}

/-- A replica of a walk stays at its coordinates, in the same shard of the same cluster. -/
theorem at?_walk_withClusters
    (h : Extends ClusterSpec.ScalesTo s.configuration.clusters clusters)
    {c sh r : Nat} {p : Placement} (hp : (walk s).at? c sh r = some p) :
    ∃ q, (walk (s.withClusters clusters)).at? c sh r = some q ∧ q.replica = p.replica ∧
      q.cluster.name = p.cluster.name ∧ q.shard.index = p.shard.index := by
  obtain ⟨cluster, plan, replica, hcluster, hplan, hreplica, rfl⟩ := at?_walk_eq_some_iff.1 hp
  obtain ⟨cluster', hcluster', hscales⟩ := h c cluster hcluster
  obtain ⟨plan', hplan', hprefix⟩ :=
    ShardPlan.ofCluster_extends s.defaults.selection hscales sh plan hplan
  exact ⟨_, at?_walk_eq_some_iff.2 ⟨cluster', plan', replica, hcluster', hplan',
    getElem?_of_prefix hprefix hreplica, rfl⟩, rfl, hscales.name, rfl⟩

theorem exists_mem_placements_withClusters
    (h : Extends ClusterSpec.ScalesTo s.configuration.clusters clusters)
    {p : Placement} (hp : p ∈ (walk s).placements) :
    ∃ q ∈ (walk (s.withClusters clusters)).placements, q.replica = p.replica ∧
      q.cluster.name = p.cluster.name ∧ q.shard.index = p.shard.index := by
  obtain ⟨c, sh, r, hat⟩ := mem_placements_iff_at?.1 hp
  obtain ⟨q, hq, hsame⟩ := at?_walk_withClusters h hat
  exact ⟨q, mem_placements_iff_at?.2 ⟨c, sh, r, hq⟩, hsame⟩

end Topology

/-- Digests that tell the selections of a specification tell any part of them. -/
theorem Spec.DigestsTellSelections.of_placements {s s' : Spec} (h : s'.DigestsTellSelections)
    (hsub : ∀ p ∈ (Topology.walk s).placements,
      ∃ q ∈ (Topology.walk s').placements, q.replica.selection = p.replica.selection) :
    s.DigestsTellSelections := by
  intro p hp q hq hne
  obtain ⟨p', hp', hpp⟩ := hsub p hp
  obtain ⟨q', hq', hqq⟩ := hsub q hq
  rw [← hpp, ← hqq] at hne ⊢
  exact h p' hp' q' hq' hne

/-! ### Objects -/

namespace Installation

variable {i : Installation} {o : Options} {name : String} {clusters : List ClusterSpec}

/-- The objects of a replica are the same after scaling out. -/
theorem replicaObjects_withClusters
    (hscales : Extends ClusterSpec.ScalesTo i.spec.configuration.clusters clusters)
    (hdigests : (i.withClusters clusters).spec.DigestsTellSelections) {p : Placement}
    (hp : p ∈ (Topology.walk i.spec).placements) :
    ((i.withClusters clusters).basisNamed o name).replicaObjects p.replica.deployment =
      (i.basisNamed o name).replicaObjects p.replica.deployment := by
  have hdigests₀ : i.spec.DigestsTellSelections := by
    refine hdigests.of_placements fun p hp => ?_
    obtain ⟨q, hq, hreplica, -⟩ := Topology.exists_mem_placements_withClusters hscales hp
    exact ⟨q, hq, congrArg Replica.selection hreplica⟩
  obtain ⟨q, hq, hreplica, hcluster, hshard⟩ :=
    Topology.exists_mem_placements_withClusters hscales hp
  refine Basis.replicaObjects_congr rfl rfl rfl rfl ?files ?macros ?resolved
  case files =>
    -- a replica stands in a cluster, so both installations have the file of the clusters
    have hclusters := List.ne_nil_of_mem (Topology.mem_placements_iff.1 hp).1
    have hclusters' := List.ne_nil_of_mem (Topology.mem_placements_iff.1 hq).1
    have hshared : Bundle.unclustered name (i.spec.withClusters clusters).configuration =
        Bundle.unclustered name i.spec.configuration := rfl
    rw [basisNamed, basisNamed, Basis.shared_derived, Basis.shared_derived]
    exact Bundle.keys_files_compose_eq hshared (iff_of_false hclusters' hclusters)
  case macros =>
    have hq' := Basis.macros_get?_derived name (i.targetNamespace o) o.defaultImage hq
    rw [hreplica, hcluster, hshard] at hq'
    exact hq'.trans (Basis.macros_get?_derived name (i.targetNamespace o) o.defaultImage hp).symm
  case resolved =>
    have hq' := Basis.resolved_derived name (i.targetNamespace o) o.defaultImage hdigests hq
    rw [hreplica] at hq'
    exact hq'.trans
      (Basis.resolved_derived name (i.targetNamespace o) o.defaultImage hdigests₀ hp).symm

/-- Scaling out leaves alone what runs. If no two different selections of the larger installation
have one digest, it has every identifier of the smaller one, with the same objects, and the same
Service in front. -/
theorem replicas_of_scalesTo {i i' : Installation} {o : Options} {before after : Objects}
    (hscales : i.ScalesTo i') (hdigests : i'.spec.DigestsTellSelections)
    (hbefore : (i.compile o).outcome = .ok before) (hafter : (i'.compile o).outcome = .ok after) :
    ∃ name, i.metadata.name = some name ∧ before.Grouped name ∧ after.Grouped name ∧
      (∃ front, before.services.head? = some front ∧ after.services.head? = some front) ∧
      before.deployments ⊆ after.deployments ∧
      ∀ d ∈ before.deployments,
        ∃ r, r.deployment = d ∧ r ∈ before.replicas ∧ r ∈ after.replicas := by
  obtain ⟨clusters, rfl, hclusters⟩ := hscales
  obtain ⟨name, hname, rfl⟩ := objects_of_compile hbefore
  obtain ⟨name', hname', rfl⟩ := objects_of_compile hafter
  obtain rfl : name = name' := Option.some.inj (hname.symm.trans hname')
  have hdeployments : ∀ d ∈ (i.basisNamed o name).deployments,
      d ∈ ((i.withClusters clusters).basisNamed o name).deployments := by
    intro d hd
    obtain ⟨p, hp, rfl⟩ := Topology.mem_deployments_iff.1 hd
    obtain ⟨q, hq, hreplica, -⟩ := Topology.exists_mem_placements_withClusters hclusters hp
    exact Topology.mem_deployments_iff.2 ⟨q, hq, congrArg Replica.deployment hreplica⟩
  refine ⟨name, hname, grouped_basisNamed i o name,
    grouped_basisNamed (i.withClusters clusters) o name, ⟨_, rfl, rfl⟩, hdeployments, ?_⟩
  intro d hd
  refine ⟨(i.basisNamed o name).replicaObjects d, rfl, ?_, ?_⟩
  · exact Basis.mem_replicas_objects.2 ⟨d, hd, rfl⟩
  · obtain ⟨p, hp, rfl⟩ := Topology.mem_deployments_iff.1 hd
    exact Basis.mem_replicas_objects.2
      ⟨_, hdeployments _ hd, replicaObjects_withClusters hclusters hdigests hp⟩

/-- The pair with one more shard, one more replica in each shard, and one more cluster. -/
def pairScaledOut : Installation :=
  (named "demo" Spec.pair).withClusters
    [⟨"main", ⟨.standard, some 2, some 3, []⟩, .unset⟩, ⟨"more", .simplest, .unset⟩]

theorem pair_scalesTo : (named "demo" Spec.pair).ScalesTo pairScaledOut := by
  have hraised : (named "demo" Spec.pair).ScalesTo ((named "demo" Spec.pair).withClusters
      [⟨"main", ⟨.standard, some 2, some 3, []⟩, .unset⟩]) := by
    refine ⟨_, rfl, ?_⟩
    intro i c hc
    cases i with
    | zero =>
      cases hc
      exact ⟨_, rfl, rfl, rfl, rfl, by decide, by decide,
        .refl (ShardSpec.ScalesTo.refl (by decide)) _⟩
    | succ i => simp [named, Spec.pair, Spec.ofClusters] at hc
  exact hraised.trans (scalesTo_append _ [⟨"more", .simplest, .unset⟩])

theorem replicas_pairScaledOut :
    ∃ before after, ((named "demo" Spec.pair).compile .none).outcome = .ok before ∧
      (pairScaledOut.compile .none).outcome = .ok after ∧
      ∃ d ∈ before.deployments, d ∈ after.deployments ∧
        ∃ r, r.deployment = d ∧ r ∈ before.replicas ∧ r ∈ after.replicas := by
  have hscaled : ∀ p ∈ (Topology.walk pairScaledOut.spec).placements,
      p.replica.selection = .unset := by
    decide
  obtain ⟨before, hbefore⟩ := exists_compile_pair
  obtain ⟨after, hafter⟩ :=
    exists_compile_of_unset (i := pairScaledOut) (o := .none) rfl rfl (by decide) hscaled
  obtain ⟨_, -, -, -, -, hsub, hreplicas⟩ := replicas_of_scalesTo pair_scalesTo
    (Spec.digestsTellSelections_of_eq hscaled) hbefore hafter
  obtain ⟨p, hp⟩ : ∃ p, (Topology.walk Spec.pair).at? 0 0 1 = some p := ⟨_, rfl⟩
  have hd : p.replica.deployment ∈ before.deployments := by
    rw [deployments_of_compile hbefore]
    exact Topology.mem_deployments_iff.2 ⟨p, Topology.mem_placements_iff_at?.2 ⟨_, _, _, hp⟩, rfl⟩
  exact ⟨before, after, hbefore, hafter, _, hd, hsub hd, hreplicas _ hd⟩

end Installation

end ShardManifest
