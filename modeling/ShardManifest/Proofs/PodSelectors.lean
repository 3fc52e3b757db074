import ShardManifest.Proofs.Provisioning
import ShardManifest.Proofs.ReplicaObjects

/-!
# Which pods are selected

A selector reaches the pods whose labels contain it. Selectors and labels are written apart from
each other; they meet in the label of the StatefulSet, which tells the replicas of an installation,
and in the label of the installation, which all of them share.

## Main definitions

- `Dictionary.ContainedIn`: a selector is contained in labels
- `Objects.PodsSelected`: which pods the Services and StatefulSets of an installation select

## Main results

- `Dictionary.insert_empty_containedIn_iff`: a selector of one entry asks for one label
- `Basis.app_containedIn_iff`: the label of a StatefulSet tells the replicas
- `Installation.podsSelected_of_compile`: the Services and StatefulSets of a compilation select the
  right pods
-/

namespace ShardManifest

open Kubernetes

/-! ### Selectors -/

namespace Dictionary

variable {α : Type}

/-- All entries of a dictionary are in another. -/
def ContainedIn (selector labels : Dictionary α) : Prop :=
  ∀ key value, selector.get? key = some value → labels.get? key = some value

theorem insert_empty_containedIn_iff {key : String} {value : α} {labels : Dictionary α} :
    (empty.insert key value).ContainedIn labels ↔ labels.get? key = some value := by
  constructor
  · intro h
    exact h key value (get?_insert_self empty key value)
  · intro h other found hfound
    by_cases hother : other = key
    · subst hother
      rw [get?_insert_self] at hfound
      rw [h, hfound]
    · -- the selector has no other entry
      rw [get?_insert_of_ne hother, get?_empty] at hfound
      cases hfound

end Dictionary

/-- The Service and the StatefulSet of each replica select its pod and no other one, the StatefulSet
belongs to this Service, and the Service in front selects all pods. -/
structure Objects.PodsSelected (o : Objects) : Prop where
  serviceName : ∀ r ∈ o.replicas, r.statefulSet.spec.serviceName = r.service.metadata.name
  service : ∀ r ∈ o.replicas, ∀ r' ∈ o.replicas,
    r.service.spec.selector.ContainedIn r'.pod.metadata.labels ↔ r.deployment = r'.deployment
  statefulSet : ∀ r ∈ o.replicas, ∀ r' ∈ o.replicas,
    r.statefulSet.spec.selector.matchLabels.ContainedIn r'.pod.metadata.labels ↔
      r.deployment = r'.deployment
  front : ∃ front, o.services.head? = some front ∧
    ∀ r ∈ o.replicas, front.spec.selector.ContainedIn r.pod.metadata.labels

/-! ### The objects of a basis -/

theorem Names.statefulSet_injective : Function.Injective Names.statefulSet := by
  intro d d' h
  exact (String.append_right_inj _).1 h

namespace Basis

/-- A pod has the labels of its installation, and that of its StatefulSet. -/
theorem labels_replicaObjects (b : Basis) (d : String) :
    (b.replicaObjects d).pod.metadata.labels =
      (ownershipLabels b.installation).insert Names.appLabel (Names.statefulSet d) := rfl

/-- The label of a StatefulSet tells the replicas. -/
theorem app_containedIn_iff {b : Basis} {d d' : String} :
    (Selector.app (Names.statefulSet d)).matchLabels.ContainedIn
      (b.replicaObjects d').pod.metadata.labels ↔ d = d' := by
  rw [Selector.app, Dictionary.insert_empty_containedIn_iff, labels_replicaObjects,
    Dictionary.get?_insert_self, Option.some.injEq, Names.statefulSet_injective.eq_iff]
  exact eq_comm

/-- The label of the installation is kept in the labels of its pods. -/
theorem installation_containedIn (b : Basis) (d : String) :
    (Dictionary.empty.insert Names.installationLabel b.installation).ContainedIn
      (b.replicaObjects d).pod.metadata.labels := by
  have hne : Names.installationLabel ≠ Names.appLabel := by decide
  rw [Dictionary.insert_empty_containedIn_iff, labels_replicaObjects,
    Dictionary.get?_insert_of_ne hne]
  exact (get?_ownershipLabels b.installation).2

theorem podsSelected_objects (b : Basis) : b.objects.PodsSelected := by
  constructor
  case serviceName =>
    apply forall_replicas_objects
    intro d
    rfl
  case service | statefulSet =>
    apply forall_replicas_objects
    intro d
    apply forall_replicas_objects
    intro d'
    exact app_containedIn_iff
  case front =>
    refine ⟨_, rfl, ?_⟩
    apply forall_replicas_objects
    intro d
    exact installation_containedIn b d

end Basis

/-! ### The objects of a compilation -/

namespace Installation

/-- The Services and StatefulSets of a compilation select the right pods. -/
theorem podsSelected_of_compile {i : Installation} {o : Options} {objects : Objects}
    (h : (i.compile o).outcome = .ok objects) :
    ∃ name, i.metadata.name = some name ∧ objects.Grouped name ∧ objects.PodsSelected := by
  obtain ⟨name, hname, rfl⟩ := objects_of_compile h
  exact ⟨name, hname, grouped_basisNamed i o name,
    Basis.podsSelected_objects (i.basisNamed o name)⟩

theorem podsSelected_pair :
    ∃ objects, ((named "demo" Spec.pair).compile .none).outcome = .ok objects ∧
      ∃ r ∈ objects.replicas, ∃ r' ∈ objects.replicas, r.deployment ≠ r'.deployment ∧
        r.service.spec.selector.ContainedIn r.pod.metadata.labels ∧
        ¬r.service.spec.selector.ContainedIn r'.pod.metadata.labels := by
  obtain ⟨objects, hobjects⟩ := exists_compile_pair
  obtain ⟨p, hp⟩ : ∃ p, (Topology.walk Spec.pair).at? 0 0 0 = some p := ⟨_, rfl⟩
  obtain ⟨q, hq⟩ : ∃ q, (Topology.walk Spec.pair).at? 0 0 1 = some q := ⟨_, rfl⟩
  have hne : p.replica.deployment ≠ q.replica.deployment := by
    intro heq
    have hcoordinates := Topology.coordinates_of_deployment_eq hp hq heq
    simp at hcoordinates
  obtain ⟨r, hr, hrp⟩ := exists_replica_of_compile hobjects
    (Topology.mem_placements_iff_at?.2 ⟨_, _, _, hp⟩)
  obtain ⟨r', hr', hrq⟩ := exists_replica_of_compile hobjects
    (Topology.mem_placements_iff_at?.2 ⟨_, _, _, hq⟩)
  obtain ⟨_, -, -, hselected⟩ := podsSelected_of_compile hobjects
  rw [← hrp, ← hrq] at hne
  exact ⟨objects, hobjects, r, hr, r', hr', hne, (hselected.service r hr r hr).2 rfl,
    fun h => hne ((hselected.service r hr r' hr').1 h)⟩

end Installation

end ShardManifest
