import ShardManifest.Proofs.CompilationOutcome

/-!
# The objects of each replica

A compilation lists its objects by kind: Services, ConfigMaps, StatefulSets. Behind the objects of
the whole installation each list goes through the replicas in the order of their identifiers, so the
objects can be read replica by replica as well.

## Main definitions

- `ReplicaObjects`, `Objects.replicas`: the objects of one replica, and of each
- `Objects.Grouped`: read replica by replica, the objects are complete and named for their replicas
- `Basis.replicaObjects`: the objects that a basis has for an identifier

## Main results

- `Installation.grouped_of_compile`: the objects of a compilation are so grouped
- `Installation.macros_of_compile`: the macros of each replica
- `Basis.replicaObjects_congr`: what the objects of one replica depend on
-/

namespace ShardManifest

open Kubernetes

/-- The objects of one replica. -/
structure ReplicaObjects where
  /-- The identifier of the replica. -/
  deployment : String
  service : Service
  macros : ConfigMap
  statefulSet : StatefulSet

/-- The pod that the StatefulSet of a replica runs. -/
def ReplicaObjects.pod (r : ReplicaObjects) : PodTemplate := r.statefulSet.spec.template

namespace Objects

/-- The objects of each replica: what stands where its identifier stands, behind the objects of the
whole installation. -/
def replicas (o : Objects) : List ReplicaObjects :=
  (o.deployments.zip (o.services.tail.zip (o.configMaps.tail.zip o.statefulSets))).map
    fun (deployment, service, macros, statefulSet) => ⟨deployment, service, macros, statefulSet⟩

/-- Read replica by replica, the objects of a named installation are all there, no identifier occurs
twice, and the objects of a replica are named for it. -/
structure Grouped (installation : String) (o : Objects) : Prop where
  deployments : o.replicas.map (·.deployment) = o.deployments
  services : o.replicas.map (·.service) = o.services.tail
  configMaps : o.replicas.map (·.macros) = o.configMaps.tail
  statefulSets : o.replicas.map (·.statefulSet) = o.statefulSets
  nodup : o.deployments.Nodup
  service_name : ∀ r ∈ o.replicas, r.service.metadata.name = "chi-service-" ++ r.deployment
  macros_name : ∀ r ∈ o.replicas,
    r.macros.metadata.name = "chi-" ++ installation ++ "-deploy-confd-" ++ r.deployment
  statefulSet_name : ∀ r ∈ o.replicas, r.statefulSet.metadata.name = "chi-" ++ r.deployment

end Objects

namespace Basis

/-- The objects that a basis has for an identifier. -/
def replicaObjects (b : Basis) (deployment : String) : ReplicaObjects where
  deployment := deployment
  service := (b.replicaService deployment).value
  macros := b.macrosMap deployment
  statefulSet := b.replicaSet deployment

theorem replicas_objects (b : Basis) :
    b.objects.replicas = b.deployments.map b.replicaObjects := by
  have hrow : ∀ l : List String,
      (l.zip ((l.map fun d => (b.replicaService d).value).zip
        ((l.map b.macrosMap).zip (l.map b.replicaSet)))).map
          (fun (d, service, macros, set) => (⟨d, service, macros, set⟩ : ReplicaObjects)) =
        l.map b.replicaObjects := by
    intro l
    induction l with
    | nil => rfl
    | cons d l ih => simpa [replicaObjects] using ih
  rw [Objects.replicas, objects, value_services]
  exact hrow b.deployments

theorem mem_replicas_objects {b : Basis} {r : ReplicaObjects} :
    r ∈ b.objects.replicas ↔ ∃ d ∈ b.deployments, b.replicaObjects d = r := by
  rw [replicas_objects, List.mem_map]

/-- What holds of the objects of any identifier holds of every replica. -/
theorem forall_replicas_objects {b : Basis} {P : ReplicaObjects → Prop}
    (h : ∀ d, P (b.replicaObjects d)) : ∀ r ∈ b.objects.replicas, P r := by
  intro r hr
  obtain ⟨d, -, rfl⟩ := mem_replicas_objects.1 hr
  exact h d

theorem grouped_objects {b : Basis} (h : b.deployments.Nodup) :
    b.objects.Grouped b.installation := by
  constructor
  case nodup => exact h
  case service_name | macros_name | statefulSet_name =>
    apply forall_replicas_objects
    intro d
    rfl
  case deployments =>
    rw [replicas_objects, List.map_map]
    exact List.map_id _
  case services =>
    rw [replicas_objects, List.map_map, objects, value_services]
    rfl
  case configMaps =>
    rw [replicas_objects, List.map_map]
    rfl
  case statefulSets =>
    rw [replicas_objects, List.map_map]
    rfl

/-- The ConfigMap of a replica holds its macros and nothing else. -/
theorem data_macrosMap_derived {installation inNamespace image : String} {s : Spec}
    {p : Placement} (hp : p ∈ (Topology.walk s).placements) :
    ((derived installation inNamespace image s).macrosMap p.replica.deployment).data =
      Dictionary.empty.insert "macros.xml" (Fragment.macros installation p.replica.deployment
        [⟨p.cluster.name, p.shard.index⟩]) := by
  rw [macrosMap, macros_get?_derived installation inNamespace image hp]
  rfl

/-- The objects of a replica depend on its own macros and resolved selection, on the templates, on
which files are shared, and on the names and the image given for all. -/
theorem replicaObjects_congr {b b' : Basis} {d : String}
    (installation : b.installation = b'.installation) (inNamespace : b.inNamespace = b'.inNamespace)
    (image : b.defaultImage = b'.defaultImage) (templates : b.templates = b'.templates)
    (files : b.shared.files.keys = b'.shared.files.keys)
    (macros : b.macros.get? d = b'.macros.get? d) (resolved : b.resolved d = b'.resolved d) :
    b.replicaObjects d = b'.replicaObjects d := by
  have hmetadata : b.metadata = b'.metadata := by
    funext name
    rw [metadata, metadata, installation, inNamespace]
  have hcommon : b.commonConfigMapName = b'.commonConfigMapName := by
    rw [commonConfigMapName, commonConfigMapName, installation]
  have hmounts : b.mounts = b'.mounts := by
    funext macrosConfigMap
    rw [mounts, mounts, files, hcommon]
  have hcontainer : b.defaultContainer = b'.defaultContainer := by
    funext name mounts
    rw [defaultContainer, defaultContainer, image]
  have hservice : (b.replicaService d).value = (b'.replicaService d).value := by
    simp only [replicaService, Logged.value_bind, Logged.value_pure, hmetadata]
  have hmacros : b.macrosMap d = b'.macrosMap d := by
    rw [macrosMap, macrosMap, hmetadata, installation, macros]
  have hpod : b.podOf d = b'.podOf d := by
    rw [podOf, podOf, resolved, templates, hmounts, hcontainer, installation]
  have hclaim : b.claimOf d = b'.claimOf d := by
    rw [claimOf, claimOf, resolved, templates]
  have hassemble : b.assemble d = b'.assemble d := by
    funext content claim
    rw [assemble, assemble, hmetadata, hcommon, installation]
  rw [replicaObjects, replicaObjects, replicaSet, replicaSet, hservice, hmacros, hassemble, hpod,
    hclaim]

end Basis

namespace Installation

variable {i : Installation} {o : Options} {objects : Objects}

/-- The objects of a compilation are those of the basis of the installation under its name. -/
theorem objects_of_compile (h : (i.compile o).outcome = .ok objects) :
    ∃ name, i.metadata.name = some name ∧ objects = (i.basisNamed o name).objects := by
  obtain ⟨name, hname, -, -, -, hobjects⟩ := compile_eq_ok_iff.1 h
  exact ⟨name, (Option.filter_eq_some_iff.1 hname).1, hobjects⟩

theorem grouped_basisNamed (i : Installation) (o : Options) (name : String) :
    (i.basisNamed o name).objects.Grouped name :=
  Basis.grouped_objects (b := i.basisNamed o name) (Topology.deployments_nodup i.spec)

theorem deployments_of_compile (h : (i.compile o).outcome = .ok objects) :
    objects.deployments = (Topology.walk i.spec).deployments := by
  obtain ⟨name, -, rfl⟩ := objects_of_compile h
  rfl

/-- The objects of a compilation can be read replica by replica. -/
theorem grouped_of_compile (h : (i.compile o).outcome = .ok objects) :
    ∃ name, i.metadata.name = some name ∧ objects.Grouped name := by
  obtain ⟨name, hname, rfl⟩ := objects_of_compile h
  exact ⟨name, hname, grouped_basisNamed i o name⟩

theorem exists_replica_of_compile (h : (i.compile o).outcome = .ok objects) {p : Placement}
    (hp : p ∈ (Topology.walk i.spec).placements) :
    ∃ r ∈ objects.replicas, r.deployment = p.replica.deployment := by
  obtain ⟨_, -, hgrouped⟩ := grouped_of_compile h
  have hd : p.replica.deployment ∈ objects.replicas.map (·.deployment) := by
    rw [hgrouped.deployments, deployments_of_compile h]
    exact Topology.mem_deployments_iff.2 ⟨p, hp, rfl⟩
  exact List.mem_map.1 hd

/-- The macros of each replica of a compilation are those of the place where its identifier
stands. -/
theorem macros_of_compile (h : (i.compile o).outcome = .ok objects) :
    ∃ name, i.metadata.name = some name ∧ objects.Grouped name ∧ ∀ r ∈ objects.replicas,
      ∃ p ∈ (Topology.walk i.spec).placements, p.replica.deployment = r.deployment ∧
        r.macros.data.get? "macros.xml" = some (Fragment.macros name r.deployment
          [⟨p.cluster.name, p.shard.index⟩]) := by
  obtain ⟨name, hname, rfl⟩ := objects_of_compile h
  refine ⟨name, hname, grouped_basisNamed i o name, fun r hr => ?_⟩
  obtain ⟨d, hd, rfl⟩ := Basis.mem_replicas_objects.1 hr
  obtain ⟨p, hp, rfl⟩ := Topology.mem_deployments_iff.1 hd
  refine ⟨p, hp, rfl, ?_⟩
  have hdata : ((i.basisNamed o name).replicaObjects p.replica.deployment).macros.data = _ :=
    Basis.data_macrosMap_derived hp
  rw [hdata, Dictionary.get?_insert_self]
  rfl

end Installation

end ShardManifest
