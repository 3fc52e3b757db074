import ShardManifest.Proofs.PodSelectors

/-!
# Neighbouring installations

StatefulSets and the Services of single replicas are named for the identifiers of their replicas. An
identifier occurs once in its installation, but it does not hold the name of the installation, so in
one namespace two installations get in each other's way as soon as they have an identifier in
common. Only the Service in front has the name of its installation. That name is free text, with
which the Service may have the name of a replica's Service.

## Main definitions

- `Objects.Apart`: outputs whose replicas do not get in each other's way
- `Objects.Neighbours`: which objects of two outputs get in each other's way
- `Installation.KeptApart`: two installations are apart if their names differ

## Main results

- `Installation.not_keptApart_siblings`: names of installations alone keep nothing apart
- `Installation.neighbours_of_compile`: which objects of two installations clash, and when none does
-/

namespace ShardManifest

open Kubernetes

/-- No StatefulSet and no Service of one output has the name of one of the other, and no Service of
a replica of the first selects a pod of the second. -/
structure Objects.Apart (a b : Objects) : Prop where
  statefulSets : ∀ set ∈ a.statefulSets, ∀ set' ∈ b.statefulSets,
    set.metadata.name ≠ set'.metadata.name
  services : ∀ s ∈ a.services, ∀ s' ∈ b.services, s.metadata.name ≠ s'.metadata.name
  selectors : ∀ s ∈ a.services.tail, ∀ set ∈ b.statefulSets,
    ¬s.spec.selector.ContainedIn set.spec.template.metadata.labels

/-- Which objects of the outputs of two named installations clash. Those of replicas clash exactly
if the replicas have one identifier. The Services in front do not, but one of them may have the name
of the Service of a replica. So the outputs are apart exactly if they have no identifier in common
and neither installation is named for a replica of the other. -/
structure Objects.Neighbours (name name' : String) (a b : Objects) : Prop where
  statefulSets : ∀ r ∈ a.replicas, ∀ r' ∈ b.replicas,
    r.statefulSet.metadata.name = r'.statefulSet.metadata.name ↔ r.deployment = r'.deployment
  services : ∀ r ∈ a.replicas, ∀ r' ∈ b.replicas,
    r.service.metadata.name = r'.service.metadata.name ↔ r.deployment = r'.deployment
  selectors : ∀ r ∈ a.replicas, ∀ r' ∈ b.replicas,
    r.service.spec.selector.ContainedIn r'.pod.metadata.labels ↔ r.deployment = r'.deployment
  fronts : ∃ front front', a.services.head? = some front ∧ b.services.head? = some front' ∧
    front.metadata.name ≠ front'.metadata.name ∧
    (∀ r' ∈ b.replicas,
      front.metadata.name = r'.service.metadata.name ↔ name = "service-" ++ r'.deployment) ∧
    ∀ r ∈ a.replicas,
      r.service.metadata.name = front'.metadata.name ↔ name' = "service-" ++ r.deployment
  apart : a.Apart b ↔ (∀ d ∈ a.deployments, d ∉ b.deployments) ∧
    (∀ d ∈ b.deployments, name ≠ "service-" ++ d) ∧
    ∀ d ∈ a.deployments, name' ≠ "service-" ++ d

/-! ### Names of Services -/

namespace Names

theorem replicaService_injective : Function.Injective replicaService := by
  intro d d' h
  exact (String.append_right_inj _).1 h

theorem installationService_injective : Function.Injective installationService := by
  intro name name' h
  exact (String.append_right_inj _).1 h

/-- The Service in front of an installation may have the name of the Service of a replica. -/
theorem installationService_eq_replicaService_iff {name d : String} :
    installationService name = replicaService d ↔ name = "service-" ++ d := by
  have hpattern : replicaService d = "chi-" ++ ("service-" ++ d) := by
    rw [← String.append_assoc]
    rfl
  rw [installationService, hpattern, String.append_right_inj]

end Names

/-! ### Two bases -/

namespace Basis

variable {b b' : Basis}

theorem mem_services_objects {s : Service} :
    s ∈ b.objects.services ↔
      s = b.installationService.value ∨ ∃ d ∈ b.deployments, (b.replicaService d).value = s := by
  rw [objects, value_services, List.mem_cons, List.mem_map]

theorem mem_statefulSets_objects {set : StatefulSet} :
    set ∈ b.objects.statefulSets ↔ ∃ d ∈ b.deployments, b.replicaSet d = set := by
  rw [objects, List.mem_map]

theorem mem_tail_services_objects {s : Service} :
    s ∈ b.objects.services.tail ↔ ∃ d ∈ b.deployments, (b.replicaService d).value = s := by
  rw [objects, value_services, List.tail_cons, List.mem_map]

/-- Two bases under different names are apart if they have no identifier in common, and if the
Service in front of either has the name of no replica's Service of the other. -/
theorem apart_objects_iff (hne : b.installation ≠ b'.installation) :
    b.objects.Apart b'.objects ↔
      (∀ d ∈ b.deployments, d ∉ b'.deployments) ∧
      (∀ d ∈ b'.deployments, b.installation ≠ "service-" ++ d) ∧
      ∀ d ∈ b.deployments, b'.installation ≠ "service-" ++ d := by
  constructor
  · intro h
    refine ⟨?identifiers, ?front, ?front'⟩
    case identifiers =>
      intro d hd hd'
      exact h.statefulSets _ (mem_statefulSets_objects.2 ⟨d, hd, rfl⟩) _
        (mem_statefulSets_objects.2 ⟨d, hd', rfl⟩) rfl
    case front =>
      intro d hd hname
      exact h.services _ (mem_services_objects.2 (.inl rfl)) _
        (mem_services_objects.2 (.inr ⟨d, hd, rfl⟩))
        (Names.installationService_eq_replicaService_iff.2 hname)
    case front' =>
      intro d hd hname
      exact h.services _ (mem_services_objects.2 (.inr ⟨d, hd, rfl⟩)) _
        (mem_services_objects.2 (.inl rfl))
        (Names.installationService_eq_replicaService_iff.2 hname).symm
  · rintro ⟨hidentifiers, hfront, hfront'⟩
    constructor
    case statefulSets =>
      intro set hset set' hset' hname
      obtain ⟨d, hd, rfl⟩ := mem_statefulSets_objects.1 hset
      obtain ⟨d', hd', rfl⟩ := mem_statefulSets_objects.1 hset'
      obtain rfl := Names.statefulSet_injective hname
      exact hidentifiers d hd hd'
    case services =>
      intro s hs s' hs' hname
      -- either Service is the one in front or that of a replica
      rcases mem_services_objects.1 hs with rfl | ⟨d, hd, rfl⟩
      · rcases mem_services_objects.1 hs' with rfl | ⟨d', hd', rfl⟩
        · exact hne (Names.installationService_injective hname)
        · exact hfront d' hd' (Names.installationService_eq_replicaService_iff.1 hname)
      · rcases mem_services_objects.1 hs' with rfl | ⟨d', hd', rfl⟩
        · exact hfront' d hd (Names.installationService_eq_replicaService_iff.1 hname.symm)
        · obtain rfl := Names.replicaService_injective hname
          exact hidentifiers d hd hd'
    case selectors =>
      intro s hs set hset hselects
      obtain ⟨d, hd, rfl⟩ := mem_tail_services_objects.1 hs
      obtain ⟨d', hd', rfl⟩ := mem_statefulSets_objects.1 hset
      obtain rfl : d = d' := app_containedIn_iff.1 hselects
      exact hidentifiers d hd hd'

theorem neighbours_objects (hne : b.installation ≠ b'.installation) :
    b.objects.Neighbours b.installation b'.installation b'.objects where
  statefulSets := forall_replicas_objects fun _ => forall_replicas_objects fun _ =>
    Names.statefulSet_injective.eq_iff
  services := forall_replicas_objects fun _ => forall_replicas_objects fun _ =>
    Names.replicaService_injective.eq_iff
  selectors := forall_replicas_objects fun _ => forall_replicas_objects fun _ =>
    app_containedIn_iff
  fronts := by
    refine ⟨_, _, rfl, rfl, Names.installationService_injective.ne hne, ?_, ?_⟩
    · apply forall_replicas_objects
      intro d
      exact Names.installationService_eq_replicaService_iff
    · apply forall_replicas_objects
      intro d
      rw [eq_comm]
      exact Names.installationService_eq_replicaService_iff
  apart := apart_objects_iff hne

end Basis

/-! ### Two compilations -/

namespace Installation

/-- Two installations are apart if their names differ, also in one namespace. -/
def KeptApart (i i' : Installation) (o o' : Options) : Prop :=
  i.metadata.name ≠ i'.metadata.name → i.targetNamespace o = i'.targetNamespace o' →
    ∀ a b, (i.compile o).outcome = .ok a → (i'.compile o').outcome = .ok b → a.Apart b

/-- The pair has its identifiers in common with itself under another name. -/
theorem exists_common_replicas_pair {name name' : String} {a b : Objects}
    (ha : ((named name Spec.pair).compile .none).outcome = .ok a)
    (hb : ((named name' Spec.pair).compile .none).outcome = .ok b) :
    ∃ r ∈ a.replicas, ∃ r' ∈ b.replicas, r.deployment = r'.deployment := by
  obtain ⟨p, hp⟩ : ∃ p, (Topology.walk Spec.pair).at? 0 0 0 = some p := ⟨_, rfl⟩
  have hmem := Topology.mem_placements_iff_at?.2 ⟨_, _, _, hp⟩
  obtain ⟨r, hr, hrp⟩ := exists_replica_of_compile ha hmem
  obtain ⟨r', hr', hrp'⟩ := exists_replica_of_compile hb hmem
  exact ⟨r, hr, r', hr', hrp.trans hrp'.symm⟩

theorem not_keptApart_siblings :
    ¬(named "red" Spec.pair).KeptApart (named "blue" Spec.pair) .none .none := by
  intro h
  obtain ⟨a, ha⟩ := exists_compile_named_pair (show "red" ≠ "" by decide)
  obtain ⟨b, hb⟩ := exists_compile_named_pair (show "blue" ≠ "" by decide)
  obtain ⟨r, hr, r', hr', hd⟩ := exists_common_replicas_pair ha hb
  obtain ⟨_, -, hgrouped⟩ := grouped_of_compile ha
  obtain ⟨_, -, hgrouped'⟩ := grouped_of_compile hb
  have hname : r.statefulSet.metadata.name = r'.statefulSet.metadata.name := by
    rw [hgrouped.statefulSet_name r hr, hgrouped'.statefulSet_name r' hr', hd]
  have hset : r.statefulSet ∈ a.statefulSets := hgrouped.statefulSets ▸ List.mem_map_of_mem hr
  have hset' : r'.statefulSet ∈ b.statefulSets :=
    hgrouped'.statefulSets ▸ List.mem_map_of_mem hr'
  exact (h (by decide) rfl a b ha hb).statefulSets _ hset _ hset' hname

/-- What of two installations with different names clashes. -/
theorem neighbours_of_compile {i i' : Installation} {o o' : Options} {a b : Objects}
    (hne : i.metadata.name ≠ i'.metadata.name) (ha : (i.compile o).outcome = .ok a)
    (hb : (i'.compile o').outcome = .ok b) :
    ∃ name name', i.metadata.name = some name ∧ i'.metadata.name = some name' ∧
      a.Grouped name ∧ b.Grouped name' ∧ a.Neighbours name name' b := by
  obtain ⟨name, hname, rfl⟩ := objects_of_compile ha
  obtain ⟨name', hname', rfl⟩ := objects_of_compile hb
  have hdifferent : (i.basisNamed o name).installation ≠ (i'.basisNamed o' name').installation := by
    rintro (rfl : name = name')
    exact hne (hname.trans hname'.symm)
  exact ⟨name, name', hname, hname', grouped_basisNamed i o name, grouped_basisNamed i' o' name',
    Basis.neighbours_objects hdifferent⟩

theorem neighbours_siblings :
    ∃ a b, ((named "red" Spec.pair).compile .none).outcome = .ok a ∧
      ((named "blue" Spec.pair).compile .none).outcome = .ok b ∧
      ∃ r ∈ a.replicas, ∃ r' ∈ b.replicas,
        r.service.metadata.name = r'.service.metadata.name ∧
        r.service.spec.selector.ContainedIn r'.pod.metadata.labels := by
  obtain ⟨a, ha⟩ := exists_compile_named_pair (show "red" ≠ "" by decide)
  obtain ⟨b, hb⟩ := exists_compile_named_pair (show "blue" ≠ "" by decide)
  obtain ⟨r, hr, r', hr', hd⟩ := exists_common_replicas_pair ha hb
  obtain ⟨_, _, -, -, -, -, hneighbours⟩ := neighbours_of_compile (by decide) ha hb
  exact ⟨a, b, ha, hb, r, hr, r', hr', (hneighbours.services r hr r' hr').2 hd,
    (hneighbours.selectors r hr r' hr').2 hd⟩

end Installation

end ShardManifest
