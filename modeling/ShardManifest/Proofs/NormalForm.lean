import ShardManifest.Proofs.CompilationOutcome
import ShardManifest.Proofs.DeploymentBound

/-!
# Layouts in normal form

Counts, defaults and levels are ways to write less. A walked topology can be written back as a
specification that uses none of them: every cluster lists its shards, every shard its replicas, and
every replica says itself what it selects. Such a specification is compiled to the same objects, as
long as there is room for the list of as many deployments as either way of writing counts.

## Main definitions

- `Replica.spec`, `Shard.spec`, `Cluster.spec`: what was walked, written back
- `Spec.normalForm`, `Installation.normalForm`

## Main results

- `Topology.walk_normalForm`: the normal form is walked to the same topology
- `Topology.capacity_normalForm`: for how many deployments room is made then
- `Installation.compile_normalForm`: when it is compiled to the same objects, or fails the same way
-/

namespace ShardManifest

/-- A replica with its port and all that it selects. -/
def Replica.spec (r : Replica) : ReplicaSpec where
  port := some r.port
  selection := r.selection

/-- A shard with all its replicas. An empty list would count as one replica, so that there is none
has to be said. -/
def Shard.spec (s : Shard) : ShardSpec where
  weight := some s.weight
  internalReplication := some s.internalReplication
  selection := .unset
  replicasCount := if s.replicas = [] then some 0 else none
  replicas := s.replicas.map Replica.spec

/-- A cluster with all its shards. -/
def Cluster.spec (c : Cluster) : ClusterSpec where
  name := c.name
  layout := ⟨.advanced, none, none, c.shards.map Shard.spec⟩
  selection := .unset

/-- A specification that lists all replicas, and leaves their selections to none of the outer
levels. -/
def Spec.normalForm (s : Spec) : Spec :=
  { s with
    defaults := { s.defaults with selection := .unset }
    configuration := { s.configuration with
      clusters := (Topology.walk s).clusters.map Cluster.spec } }

/-- An installation with its specification in normal form. -/
def Installation.normalForm (i : Installation) : Installation :=
  { i with spec := i.spec.normalForm }

/-! ### Walking the normal form -/

theorem ReplicaPlan.replicas_spec_place (cluster shard : Nat) (replicas : List ReplicaPlan) :
    ((replicas.mapIdx fun i r => r.place cluster shard i).map Replica.spec).map
      (fun r => (⟨r.port.getD NamedPort.client.number, r.selection.mergedOver .unset⟩ :
        ReplicaPlan)) = replicas := by
  rw [List.map_map, map_mapIdx_of_forall (h := id), List.map_id]
  intro i r
  simp [Replica.spec, place]

/-- A shard that was placed and written back is planned as before. -/
theorem ShardPlan.ofSpec_spec_place (cluster index count : Nat) (p : ShardPlan) :
    ofSpec .unset count (p.place cluster index).spec = p := by
  obtain ⟨weight, internalReplication, replicas⟩ := p
  -- without replicas the count says so, with replicas the list does
  by_cases h : replicas = []
  · simp [ofSpec, Shard.spec, place, h, equalReplicas]
  · have hspec := ReplicaPlan.replicas_spec_place cluster index replicas
    simpa [ofSpec, Shard.spec, place, h] using hspec

/-- A cluster that was placed and written back is planned as before. -/
theorem ShardPlan.ofCluster_spec_place (outer : Selection) (index : Nat) (c : ClusterSpec) :
    ofCluster .unset (c.place outer index).spec = ofCluster outer c := by
  change ((c.place outer index).shards.map Shard.spec).map (ofSpec .unset 1) = ofCluster outer c
  rw [List.map_map, ClusterSpec.place, map_mapIdx_of_forall (h := id), List.map_id]
  intro sh plan
  exact ofSpec_spec_place index sh 1 plan

theorem ClusterSpec.place_spec_place (outer : Selection) (index : Nat) (c : ClusterSpec) :
    (c.place outer index).spec.place .unset index = c.place outer index := by
  rw [place, ShardPlan.ofCluster_spec_place]
  rfl

/-- The normal form is walked to the same topology. -/
theorem Topology.walk_normalForm (s : Spec) : walk s.normalForm = walk s := by
  have hclusters : (walk s.normalForm).clusters = (walk s).clusters := by
    apply List.ext_getElem?
    intro i
    have hlisted : s.normalForm.configuration.clusters[i]? =
        (walk s).clusters[i]?.map Cluster.spec := List.getElem?_map
    rw [clusters_walk_getElem?, hlisted, clusters_walk_getElem?]
    cases s.configuration.clusters[i]? with
    | none => rfl
    | some c => exact congrArg some (ClusterSpec.place_spec_place _ i c)
  exact congrArg Topology.mk hclusters

/-- In normal form there is nothing left to write out. -/
theorem Spec.normalForm_normalForm (s : Spec) : s.normalForm.normalForm = s.normalForm := by
  rw [normalForm, Topology.walk_normalForm]
  rfl

example : Spec.pair.normalForm.configuration.clusters.map (fun c => c.layout.kind) = [.advanced] ∧
    Spec.pair.normalForm.configuration.clusters.map (fun c =>
      c.layout.shards.map fun s => s.replicas.length) = [[2]] := ⟨rfl, rfl⟩

/-! ### Compiling the normal form -/

/-- The check of names looks at the names only. -/
theorem Spec.validate_eq_of_names {s t : Spec}
    (h : s.configuration.clusters.map (·.name) = t.configuration.clusters.map (·.name)) :
    s.validate = t.validate := by
  have hnames : ∀ u : Spec, u.validate =
      ((u.configuration.clusters.map (·.name)).find? fun name => !Xml.isElementName name).elim
        (.ok ()) (fun name => .error (.clusterName name)) := by
    intro u
    rw [validate, List.find?_map]
    simp only [Function.comp_def]
    cases u.configuration.clusters.find? fun c => !Xml.isElementName c.name <;> rfl
  rw [hnames, hnames, h]

theorem Spec.validate_normalForm (s : Spec) : s.normalForm.validate = s.validate := by
  apply validate_eq_of_names
  change ((Topology.walk s).clusters.map Cluster.spec).map (·.name) = _
  rw [List.map_map]
  refine map_mapIdx_of_forall ?_ _
  intro i c
  rfl

/-- Layouts and levels are read for the topology and for the room that its list takes. -/
theorem Basis.ofSpec_normalForm (installation inNamespace defaultImage : String) {s : Spec}
    (h : Topology.HasRoom (Topology.capacity s.normalForm) ↔
      Topology.HasRoom (Topology.capacity s)) :
    ofSpec installation inNamespace defaultImage s.normalForm =
      ofSpec installation inNamespace defaultImage s := by
  have hsurvey : Topology.survey s.normalForm = Topology.survey s := by
    rw [Topology.survey, Topology.survey, Topology.walk_normalForm]
  have hlisted : ∀ t : Topology, t.deployments? (Topology.capacity s.normalForm) =
      t.deployments? (Topology.capacity s) := by
    intro t
    simp only [Topology.deployments?, h]
  simp only [ofSpec, hsurvey, hlisted]
  rfl

/-- The bound of a shard that lists its replicas is their number. -/
theorem Shard.shardBound_spec (s : Shard) : Spec.shardBound 1 s.spec = s.replicas.length := by
  rw [Spec.shardBound, spec, List.length_map]
  by_cases h : s.replicas = []
  · simp [h]
  · have hpos : 1 ≤ s.replicas.length := List.length_pos_iff.2 h
    simpa [h] using hpos

/-- The normal form is expected to have the replicas that it lists, and at least one a cluster. -/
theorem Topology.capacity_normalForm (s : Spec) :
    capacity s.normalForm = ((walk s).clusters.map fun c =>
      max 1 (c.shards.map fun sh => sh.replicas.length).sum).sum := by
  rw [capacity, Spec.deploymentBound_eq_sum]
  change (((walk s).clusters.map Cluster.spec).map fun c => Spec.layoutBound c.layout).sum = _
  rw [List.map_map]
  refine congrArg List.sum (List.map_congr_left fun c _ => ?_)
  change Spec.layoutBound c.spec.layout = _
  rw [Layout.bound_eq_max]
  change max 1 ((c.shards.map Shard.spec).map (Spec.shardBound 1)).sum = _
  rw [List.map_map]
  exact congrArg (fun counts => max 1 (List.sum counts))
    (List.map_congr_left fun sh _ => sh.shardBound_spec)

/-- The basis of the normal form is built alike if a check fails, or if there is room for both lists
or for neither. -/
theorem Installation.basis_normalForm {i : Installation}
    (h : i.name? = none ∨ i.spec.validate ≠ .ok () ∨
      (Topology.HasRoom (Topology.capacity i.normalForm.spec) ↔
        Topology.HasRoom (Topology.capacity i.spec))) (o : Options) :
    i.normalForm.basis o = i.basis o := by
  have hname : i.normalForm.name? = i.name? := rfl
  have hvalid : i.normalForm.spec.validate = i.spec.validate := i.spec.validate_normalForm
  rw [basis, basis, hname, hvalid]
  rcases h with hnone | hinvalid | hroom
  · rw [hnone, Building.require, Building.throw_bind, Building.throw_bind]
  · refine bind_congr fun name => ?_
    cases hchecked : i.spec.validate with
    | ok _ => exact absurd hchecked hinvalid
    | error fault => rw [basis.liftExcept, Building.throw_bind, Building.throw_bind]
  · refine bind_congr fun name => bind_congr fun _ => ?_
    exact Basis.ofSpec_normalForm name (i.targetNamespace o) o.defaultImage hroom

theorem Installation.outcome_normalForm_eq_iff {i : Installation} {o : Options} :
    (i.normalForm.compile o).outcome = (i.compile o).outcome ↔
      i.name? = none ∨ i.spec.validate ≠ .ok () ∨
        (Topology.HasRoom (Topology.capacity i.normalForm.spec) ↔
          Topology.HasRoom (Topology.capacity i.spec)) := by
  constructor
  case mp =>
    intro h
    by_cases hname : i.name? = none
    · exact .inl hname
    by_cases hvalid : i.spec.validate = .ok ()
    · -- past the checks, that there is no room is a fault of its own
      have hfails : (i.normalForm.compile o).outcome = .error .capacityOverflow ↔
          (i.compile o).outcome = .error .capacityOverflow := by rw [h]
      have hname' : i.normalForm.name? ≠ none := hname
      have hvalid' : i.normalForm.spec.validate = .ok () :=
        i.spec.validate_normalForm.trans hvalid
      rw [compile_eq_capacityOverflow_iff, compile_eq_capacityOverflow_iff] at hfails
      simp only [hname, hname', hvalid, hvalid', ne_eq, not_false_eq_true, true_and] at hfails
      exact .inr (.inr (not_iff_not.1 hfails))
    · exact .inr (.inl hvalid)
  case mpr =>
    intro h
    rw [compile, compile, basis_normalForm h]

/-- An installation and its normal form are compiled alike, to the same objects or with the same
fault, exactly if they fail a check, or there is room for both lists or for neither; and then the
reports are the same, too. Room is made by what layouts count, but for the normal form by what it
lists. -/
theorem Installation.compile_normalForm (i : Installation) (o : Options) :
    ((i.normalForm.compile o).outcome = (i.compile o).outcome ↔
      i.name? = none ∨ i.spec.validate ≠ .ok () ∨
        (Topology.HasRoom (Topology.capacity i.normalForm.spec) ↔
          Topology.HasRoom (Topology.capacity i.spec))) ∧
    (i.normalForm.compile o = i.compile o ↔
      (i.normalForm.compile o).outcome = (i.compile o).outcome) ∧
    Topology.capacity i.normalForm.spec =
      ((Topology.walk i.spec).clusters.map fun c =>
        max 1 (c.shards.map fun s => s.replicas.length).sum).sum := by
  refine ⟨outcome_normalForm_eq_iff, ⟨congrArg Building.outcome, ?reports⟩,
    Topology.capacity_normalForm i.spec⟩
  case reports =>
    intro h
    rw [compile, compile, basis_normalForm (outcome_normalForm_eq_iff.1 h)]

/-- Counts that nothing is declared by make a compilation fail whose normal form compiles. -/
theorem Installation.compile_normalForm_ne_overbooked :
    (∃ objects, (overbooked.normalForm.compile .none).outcome = .ok objects) ∧
      (overbooked.normalForm.compile .none).outcome ≠ (overbooked.compile .none).outcome := by
  have hname : overbooked.normalForm.name? = some "demo" := rfl
  obtain ⟨objects, hobjects⟩ :=
    exists_compile_of_unset (o := .none) hname rfl (by decide) (by decide)
  refine ⟨⟨objects, hobjects⟩, ?_⟩
  rw [hobjects, compile_of_overbooked (i := overbooked) rfl rfl (by decide)]
  simp

end ShardManifest
