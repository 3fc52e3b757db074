import ShardManifest.Proofs.CompilationOutcome
import ShardManifest.Proofs.ReplicaCount

/-!
# What a compiled installation consists of

The objects of an installation follow from its name and its identifiers: one Service, one ConfigMap
and one StatefulSet a replica, in the order of the identifiers, and one Service and one ConfigMap
for all of them. All objects are in one namespace and carry the labels of the installation.

## Main definitions

- `Objects.metadata`: the metadata of all objects
- `Provisioned`: objects that are complete for an installation

## Main results

- `Basis.exists_name_of_mem_metadata`: all objects of a basis take their metadata from it
- `Installation.provisioned_of_compile`: a compiled installation is complete
-/

namespace ShardManifest

open Kubernetes

def Objects.metadata (o : Objects) : List Metadata :=
  o.services.map (·.metadata) ++ o.configMaps.map (·.metadata) ++ o.statefulSets.map (·.metadata)

/-- The objects of an installation with a name are complete, in order and marked as its own. -/
structure Provisioned (i : Installation) (o : Options) (name : String) (objects : Objects) :
    Prop where
  deployments : objects.deployments = (Topology.walk i.spec).deployments
  ascending : objects.deployments.Pairwise BytewiseLT
  replicas : objects.deployments.length = i.spec.declaredReplicas
  services : objects.services.map (·.metadata.name) =
    ("chi-" ++ name) :: objects.deployments.map fun d => "chi-service-" ++ d
  configMaps : objects.configMaps.map (·.metadata.name) =
    ("chi-" ++ name ++ "-common-configd") ::
      objects.deployments.map fun d => "chi-" ++ name ++ "-deploy-confd-" ++ d
  macros : ∀ map ∈ objects.configMaps.tail, map.data.keys = ["macros.xml"]
  statefulSets : objects.statefulSets.map (·.metadata.name) =
    objects.deployments.map fun d => "chi-" ++ d
  count : objects.count = 3 * objects.deployments.length + 2
  inNamespace : ∀ m ∈ objects.metadata,
    m.inNamespace = (o.inNamespace.or i.metadata.inNamespace).getD "default"
  owner : ∀ m ∈ objects.metadata, m.labels.get? "clickhouse.altinity.com/chop" = some "chop"
  installation : ∀ m ∈ objects.metadata, m.labels.get? "clickhouse.altinity.com/chi" = some name

theorem get?_ownershipLabels (installation : String) :
    (ownershipLabels installation).get? "clickhouse.altinity.com/chop" = some "chop" ∧
      (ownershipLabels installation).get? "clickhouse.altinity.com/chi" = some installation := by
  have hne : "clickhouse.altinity.com/chop" ≠ Names.installationLabel := by decide
  rw [ownershipLabels, Dictionary.get?_insert_of_ne hne]
  exact ⟨Dictionary.get?_insert_self _ _ _, Dictionary.get?_insert_self _ _ _⟩

namespace Basis

/-- All objects of a basis take their metadata from it. -/
theorem exists_name_of_mem_metadata {b : Basis} {m : Metadata} (h : m ∈ b.objects.metadata) :
    ∃ name, m = b.metadata name := by
  simp only [objects, Objects.metadata, value_services, List.map_cons, List.map_map,
    List.cons_append, List.mem_cons, List.mem_append, List.mem_map] at h
  -- a Service of the installation or of a replica, then the ConfigMaps likewise, then a StatefulSet
  rcases h with rfl | (⟨d, -, rfl⟩ | rfl | ⟨d, -, rfl⟩) | ⟨d, -, rfl⟩ <;> exact ⟨_, rfl⟩

theorem keys_macrosMap (b : Basis) (d : String) : (b.macrosMap d).data.keys = ["macros.xml"] := rfl

end Basis

namespace Installation

theorem metadata_basisNamed_inNamespace (i : Installation) (o : Options) (name object : String) :
    ((i.basisNamed o name).metadata object).inNamespace =
      (o.inNamespace.or i.metadata.inNamespace).getD "default" := by
  change i.targetNamespace o = _
  rw [targetNamespace, namespaceOrDefault]
  cases o.inNamespace <;> rfl

/-- The objects of a basis are complete, whether or not they can be built. -/
theorem provisioned_objects (i : Installation) (o : Options) (name : String) :
    Provisioned i o name (i.basisNamed o name).objects where
  deployments := rfl
  ascending := (Topology.deployments_ascending i.spec).imp bytewiseLT_iff.2
  replicas := Topology.length_deployments_walk i.spec
  services := by
    simp only [Basis.objects, Basis.value_services, List.map_cons, List.map_map]
    rfl
  configMaps := by
    simp only [Basis.objects, List.map_cons, List.map_map]
    rfl
  macros := by
    intro map hmap
    obtain ⟨d, -, rfl⟩ := List.mem_map.1 hmap
    exact Basis.keys_macrosMap _ d
  statefulSets := by
    simp only [Basis.objects, List.map_map]
    rfl
  count := by
    simp only [Objects.count, Basis.objects, Basis.value_services, List.length_cons,
      List.length_map]
    omega
  inNamespace := by
    intro m hm
    obtain ⟨object, rfl⟩ := Basis.exists_name_of_mem_metadata hm
    exact metadata_basisNamed_inNamespace i o name object
  owner := by
    intro m hm
    obtain ⟨object, rfl⟩ := Basis.exists_name_of_mem_metadata hm
    exact (get?_ownershipLabels name).1
  installation := by
    intro m hm
    obtain ⟨object, rfl⟩ := Basis.exists_name_of_mem_metadata hm
    exact (get?_ownershipLabels name).2

/-- A compiled installation has a name, and its objects are complete. -/
theorem provisioned_of_compile {i : Installation} {o : Options} {objects : Objects}
    (h : (i.compile o).outcome = .ok objects) :
    ∃ name, i.metadata.name = some name ∧ Provisioned i o name objects := by
  obtain ⟨name, hname, -, -, -, rfl⟩ := compile_eq_ok_iff.1 h
  exact ⟨name, (Option.filter_eq_some_iff.1 hname).1, provisioned_objects i o name⟩

theorem provisioned_pair :
    ∃ objects, ((named "demo" Spec.pair).compile .none).outcome = .ok objects ∧
      objects.deployments.length = 2 ∧ objects.count = 8 := by
  have hplain : ∀ p ∈ (Topology.walk Spec.pair).placements, p.replica.selection = .unset := by
    decide
  have hnone : ∀ template d, ¬Spec.pair.SelectsEmptyPod template d := by
    rintro template d ⟨p, hp, -, htemplate, -⟩
    rw [hplain p hp] at htemplate
    cases htemplate
  obtain ⟨objects, hobjects⟩ := (exists_compile_eq_ok_iff (i := named "demo" Spec.pair)
    (o := .none) rfl rfl (by decide) (Spec.digestsTellSelections_of_eq hplain)).2 hnone
  obtain ⟨name, -, h⟩ := provisioned_of_compile hobjects
  have hreplicas : objects.deployments.length = 2 := h.replicas
  exact ⟨objects, hobjects, hreplicas, by rw [h.count, hreplicas]⟩

end Installation

end ShardManifest
