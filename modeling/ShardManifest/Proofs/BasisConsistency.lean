import ShardManifest.Proofs.DeploymentIdentity
import ShardManifest.Proofs.Outcome

/-!
# The indices of a basis agree

Four indices of a basis are built apart from each other: the deployments, their selections, their
macros and the templates. Whatever the specification, every deployment has a selection that names
indexed templates only, and macros. The only thing that a basis can lack is room for the list of its
deployments.

## Main definitions

- `Selection.IndexedIn`: a selection that names indexed templates only
- `Basis.Consistent`: the four indices agree
- `Basis.derived`: the basis of a specification whose deployments can be listed

## Main results

- `Basis.outcome_ofSpec`: a specification has that basis exactly if there is room
- `Basis.consistent_derived`: they agree in the basis of any specification
- `Basis.selection?_derived`: where digests tell selections, a deployment has its own
-/

namespace ShardManifest

/-- A selection that names indexed templates only. -/
structure Selection.IndexedIn (templates : TemplateIndex) (s : Selection) : Prop where
  pods : ∀ name, s.podTemplate = some name → ∃ content, templates.pods.get? name = some content
  claims : ∀ name, s.claimTemplate = some name → ∃ claim, templates.claims.get? name = some claim

theorem Selection.indexedIn_declaredIn (templates : TemplateIndex) (s : Selection) :
    (s.declaredIn templates).IndexedIn templates where
  pods _ := mem_pods_of_declaredIn
  claims _ := mem_claims_of_declaredIn

namespace Basis

/-- Every deployment has a selection of indexed templates, and macros. -/
structure Consistent (b : Basis) : Prop where
  selected : ∀ d ∈ b.deployments,
    ∃ s, b.selections.selection? d = some s ∧ s.IndexedIn b.templates
  macros : ∀ d ∈ b.deployments, ∃ content, b.macros.get? d = some content

/-- What is derived from a specification, with all deployments listed. -/
def derived (installation inNamespace defaultImage : String) (s : Spec) : Basis where
  installation := installation
  inNamespace := inNamespace
  defaultImage := defaultImage
  templates := (TemplateIndex.ofLibrary s.templates).value
  selections := (SelectionIndex.ofTopology (Topology.walk s)
    (TemplateIndex.ofLibrary s.templates).value).value
  shared := (Bundle.compose installation inNamespace s (Topology.walk s)).value
  macros := Fragment.allMacros installation (Topology.walk s)
  deployments := (Topology.walk s).deployments

section Derived

variable (installation inNamespace defaultImage : String) (s : Spec)

/-- The basis of a specification is built unless there is no room for the list of deployments. -/
theorem outcome_ofSpec :
    (ofSpec installation inNamespace defaultImage s).outcome =
      if Topology.HasRoom (Topology.capacity s) then
        .ok (derived installation inNamespace defaultImage s)
      else .error .capacityOverflow := by
  simp only [ofSpec, Building.outcome_bind, Building.outcome_lift, ok_bind,
    Building.outcome_require, Topology.deployments?]
  split
  · rfl
  · rfl

@[simp] theorem installation_derived :
    (derived installation inNamespace defaultImage s).installation = installation := rfl

@[simp] theorem inNamespace_derived :
    (derived installation inNamespace defaultImage s).inNamespace = inNamespace := rfl

@[simp] theorem defaultImage_derived :
    (derived installation inNamespace defaultImage s).defaultImage = defaultImage := rfl

@[simp] theorem templates_derived :
    (derived installation inNamespace defaultImage s).templates =
      (TemplateIndex.ofLibrary s.templates).value := rfl

@[simp] theorem selections_derived :
    (derived installation inNamespace defaultImage s).selections =
      (SelectionIndex.ofTopology (Topology.walk s)
        (TemplateIndex.ofLibrary s.templates).value).value := rfl

@[simp] theorem shared_derived :
    (derived installation inNamespace defaultImage s).shared =
      (Bundle.compose installation inNamespace s (Topology.walk s)).value := rfl

@[simp] theorem macros_derived :
    (derived installation inNamespace defaultImage s).macros =
      Fragment.allMacros installation (Topology.walk s) := rfl

@[simp] theorem deployments_derived :
    (derived installation inNamespace defaultImage s).deployments =
      (Topology.walk s).deployments := rfl

variable {s}

/-- The macros of a deployment are those of its one shard. -/
theorem macros_get?_derived {p : Placement} (hp : p ∈ (Topology.walk s).placements) :
    (derived installation inNamespace defaultImage s).macros.get? p.replica.deployment =
      some (Fragment.macros installation p.replica.deployment
        [⟨p.cluster.name, p.shard.index⟩]) := by
  rw [macros_derived, Fragment.allMacros, Dictionary.get?_mapWithKey,
    Topology.get?_shardPlaces_walk hp]
  rfl

/-- Where digests tell selections, a deployment has its own. -/
theorem selection?_derived (hs : s.DigestsTellSelections) {p : Placement}
    (hp : p ∈ (Topology.walk s).placements) :
    (derived installation inNamespace defaultImage s).selections.selection?
        p.replica.deployment =
      some (p.replica.selection.declaredIn (TemplateIndex.ofLibrary s.templates).value) :=
  SelectionIndex.selection?_walk hs hp

variable (s)

/-- The indices of a specification agree, whatever its digests are. -/
theorem consistent_derived : (derived installation inNamespace defaultImage s).Consistent where
  selected := by
    intro d hd
    obtain ⟨p, hp, rfl⟩ := Topology.mem_deployments_iff.1 hd
    -- the selection may be another replica's, but it was resolved against the same templates
    obtain ⟨q, -, -, hselection⟩ := SelectionIndex.exists_selection?_walk hp
    exact ⟨_, hselection _, q.replica.selection.indexedIn_declaredIn _⟩
  macros := by
    intro d hd
    obtain ⟨p, hp, rfl⟩ := Topology.mem_deployments_iff.1 hd
    exact ⟨_, macros_get?_derived installation inNamespace defaultImage hp⟩

end Derived

end Basis

end ShardManifest
