import ShardManifest.Proofs.NeighbouringInstallations

/-!
# Names of Services

The Service of a replica is named for its identifier, so no two replicas share one. The Service in
front is named for the installation, and its pattern is the beginning of the other one: it has the
name of a replica's Service if the installation is named for that replica. The identifier does not
depend on the name, so such a name can be given to any installation that has a replica.

## Main definitions

- `Objects.ServicesTold`: which Services of an output have one name

## Main results

- `Installation.not_servicesTold_imitating`: the Service in front and that of a replica have one name
- `Installation.serviceNames_of_compile`: which Services have one name, and when none do
-/

namespace ShardManifest

open Kubernetes

/-- Services of replicas have different names. The Service in front has a further one unless the
installation is named for a replica of its own. -/
structure Objects.ServicesTold (name : String) (o : Objects) : Prop where
  replicas : (o.services.tail.map (·.metadata.name)).Nodup
  front : ∃ front, o.services.head? = some front ∧
    ∀ r ∈ o.replicas, front.metadata.name = r.service.metadata.name ↔
      name = "service-" ++ r.deployment
  all : (o.services.map (·.metadata.name)).Nodup ↔ ∀ d ∈ o.deployments, name ≠ "service-" ++ d

namespace Basis

variable {b : Basis}

theorem names_tail_services_objects :
    b.objects.services.tail.map (·.metadata.name) = b.deployments.map Names.replicaService := by
  rw [objects, value_services, List.tail_cons, List.map_map]
  rfl

theorem names_services_objects :
    b.objects.services.map (·.metadata.name) =
      Names.installationService b.installation :: b.deployments.map Names.replicaService := by
  rw [← names_tail_services_objects, objects, value_services]
  rfl

theorem nodup_names_services_iff (hnodup : b.deployments.Nodup) :
    (b.objects.services.map (·.metadata.name)).Nodup ↔
      ∀ d ∈ b.deployments, b.installation ≠ "service-" ++ d := by
  have hreplicas : (b.deployments.map Names.replicaService).Nodup :=
    hnodup.map Names.replicaService_injective
  rw [names_services_objects, List.nodup_cons]
  constructor
  · rintro ⟨hfront, -⟩ d hd hname
    have hsame := Names.installationService_eq_replicaService_iff.2 hname
    exact hfront (hsame ▸ List.mem_map_of_mem hd)
  · intro hname
    -- the replicas have different names anyway
    refine ⟨fun hmem => ?_, hreplicas⟩
    obtain ⟨d, hd, hsame⟩ := List.mem_map.1 hmem
    exact hname d hd (Names.installationService_eq_replicaService_iff.1 hsame.symm)

theorem servicesTold_objects (hnodup : b.deployments.Nodup) :
    b.objects.ServicesTold b.installation where
  replicas := by
    rw [names_tail_services_objects]
    exact hnodup.map Names.replicaService_injective
  front := by
    refine ⟨_, rfl, ?_⟩
    apply forall_replicas_objects
    intro d
    exact Names.installationService_eq_replicaService_iff
  all := nodup_names_services_iff hnodup

end Basis

namespace Installation

/-- The first replica of an installation that selects nothing. -/
theorem deploymentId_unset : deploymentId (.of .unset) 0 0 0 = "240326-0-0-0" := by
  decide +kernel

theorem not_servicesTold_imitating :
    ∃ objects, ((named "service-240326-0-0-0" Spec.pair).compile .none).outcome = .ok objects ∧
      ¬(objects.services.map (·.metadata.name)).Nodup := by
  obtain ⟨objects, hobjects⟩ :=
    exists_compile_named_pair (show "service-240326-0-0-0" ≠ "" by decide)
  obtain ⟨name, hname, rfl⟩ := objects_of_compile hobjects
  obtain rfl := Option.some.inj hname
  have hfirst : "240326-0-0-0" ∈ (Topology.walk Spec.pair).deployments := by
    rw [← deploymentId_unset, Topology.mem_deployments_iff]
    exact ⟨_, Topology.mem_placements_iff_at?.2 ⟨0, 0, 0, rfl⟩, rfl⟩
  refine ⟨_, hobjects, fun hnodup => ?_⟩
  have hdifferent :=
    (Basis.nodup_names_services_iff (Topology.deployments_nodup Spec.pair)).1 hnodup
  exact hdifferent "240326-0-0-0" hfirst rfl

/-- Which Services of a compilation have one name: never those of two replicas, and the one in front
and that of a replica if the installation is named for the replica. -/
theorem serviceNames_of_compile {i : Installation} {o : Options} {objects : Objects}
    (h : (i.compile o).outcome = .ok objects) :
    ∃ name, i.metadata.name = some name ∧ objects.Grouped name ∧ objects.ServicesTold name := by
  obtain ⟨name, hname, rfl⟩ := objects_of_compile h
  have hnodup : (i.basisNamed o name).deployments.Nodup := Topology.deployments_nodup i.spec
  exact ⟨name, hname, grouped_basisNamed i o name, Basis.servicesTold_objects hnodup⟩

/-- The name imitates the identifier of a replica that the installation does not have. -/
theorem serviceNames_pair :
    ∃ objects, ((named "service-240326-0-0-2" Spec.pair).compile .none).outcome = .ok objects ∧
      (objects.services.map (·.metadata.name)).Nodup := by
  obtain ⟨objects, hobjects⟩ :=
    exists_compile_named_pair (show "service-240326-0-0-2" ≠ "" by decide)
  obtain ⟨name, hname, -, htold⟩ := serviceNames_of_compile hobjects
  obtain rfl := Option.some.inj hname
  have hother : ∀ p ∈ (Topology.walk Spec.pair).placements,
      "service-240326-0-0-2" ≠ "service-" ++ p.replica.deployment := by
    decide +kernel
  refine ⟨objects, hobjects, htold.all.2 fun d hd => ?_⟩
  rw [deployments_of_compile hobjects] at hd
  obtain ⟨p, hp, rfl⟩ := Topology.mem_deployments_iff.1 hd
  exact hother p hp

end Installation

end ShardManifest
