import ShardManifest.Proofs.BasisConsistency
import ShardManifest.Proofs.Outcome
import ShardManifest.Provision.StatefulSet

/-!
# What becomes of each object

What the objects of a basis are, as functions of the basis and the deployment. While the indices of
the basis agree the objects are these, and only one thing can go wrong: a deployment selects a pod
template without containers.

## Main definitions

- `Basis.commonMap`, `Basis.macrosMap`: the ConfigMaps
- `Basis.resolved`, `Basis.podOf`, `Basis.claimOf`, `Basis.replicaSet`: the StatefulSet of a
  deployment
- `Basis.SelectsEmptyPod`: a deployment selects a pod template without containers

## Main results

- `Basis.outcome_configMaps`: ConfigMaps are always built
- `Basis.outcome_statefulSet`, `Basis.outcome_statefulSet_of_empty`: the outcome of a StatefulSet
- `Basis.statefulSets_eq_ok_iff`, `Basis.statefulSets_eq_error_iff`: the outcome of all StatefulSets
-/

namespace ShardManifest

open Kubernetes

namespace Basis

/-! ### Services and ConfigMaps -/

theorem value_services (b : Basis) :
    b.services.value =
      b.installationService.value :: b.deployments.map fun d => (b.replicaService d).value := by
  simp [services, Logged.value_mapM]

/-- The ConfigMap that all deployments share. -/
def commonMap (b : Basis) : ConfigMap :=
  .ofData (b.metadata b.commonConfigMapName) b.shared.files

def macrosMap (b : Basis) (deployment : String) : ConfigMap :=
  (ConfigMap.ofData (b.metadata (Names.macrosConfigMap b.installation deployment)) .empty).withData
    File.macros ((b.macros.get? deployment).getD "")

/-! ### StatefulSets -/

/-- The names of a deployment's templates that are declared. -/
def resolved (b : Basis) (deployment : String) : Selection :=
  (b.selections.selection? deployment).getD .unset

/-- The containers and volumes that a deployment's pod starts from. -/
def podOf (b : Basis) (deployment : String) : PodContent :=
  let mounts := b.mounts (Names.macrosConfigMap b.installation deployment)
  match (b.resolved deployment).podTemplate.bind b.templates.pods.get? with
  | some content => ⟨content.containers.map (·.addMounts mounts), content.volumes⟩
  | none => ⟨[b.defaultContainer (Names.statefulSet deployment) mounts], []⟩

def claimOf (b : Basis) (deployment : String) : Option NamedClaim :=
  (b.resolved deployment).claimTemplate.bind b.templates.claims.get?

/-- The StatefulSet that runs the content of a pod with a claim. -/
def assemble (b : Basis) (deployment : String) (content : PodContent) (claim : Option NamedClaim) :
    StatefulSet :=
  let name := Names.statefulSet deployment
  .ofSpec (b.metadata name) {
    replicas := 1
    serviceName := Names.replicaService deployment
    selector := .app name
    template := {
      metadata := ⟨name, ((b.metadata name).withLabel Names.appLabel name).labels⟩
      spec := {
        containers :=
          if claim.any NamedClaim.usesDefault then mountData content.containers
          else content.containers
        volumes := content.volumes ++ [.ofConfigMap b.commonConfigMapName,
          .ofConfigMap (Names.macrosConfigMap b.installation deployment)] } }
    volumeClaimTemplates := (claim.map NamedClaim.claim).toList }

def replicaSet (b : Basis) (deployment : String) : StatefulSet :=
  b.assemble deployment (b.podOf deployment) (b.claimOf deployment)

/-- A deployment selects a pod template that has no containers. -/
def SelectsEmptyPod (b : Basis) (template deployment : String) : Prop :=
  (b.resolved deployment).podTemplate = some template ∧
    ∃ content, b.templates.pods.get? template = some content ∧ content.containers = []

variable {b : Basis} {d : String}

theorem Consistent.selection?_eq (h : b.Consistent) (hd : d ∈ b.deployments) :
    b.selections.selection? d = some (b.resolved d) := by
  obtain ⟨s, hs, -⟩ := h.selected d hd
  rw [resolved, hs]
  rfl

theorem Consistent.indexedIn (h : b.Consistent) (hd : d ∈ b.deployments) :
    (b.resolved d).IndexedIn b.templates := by
  obtain ⟨s, hs, hindexed⟩ := h.selected d hd
  rw [resolved, hs]
  exact hindexed

/-- The ConfigMaps of a basis are always built. -/
theorem outcome_configMaps (h : b.Consistent) :
    b.configMaps.outcome = .ok (b.commonMap :: b.deployments.map b.macrosMap) := by
  have hrow : b.deployments.mapM (fun d => (b.macrosConfigMap d).outcome) =
      .ok (b.deployments.map b.macrosMap) := by
    refine mapM_eq_ok_map fun d hd => ?_
    obtain ⟨content, hcontent⟩ := h.macros d hd
    rw [macrosConfigMap, macrosMap, hcontent]
    rfl
  have hcommon : b.commonConfigMap.outcome = .ok b.commonMap := rfl
  simp [configMaps, hcommon, Building.outcome_mapM, hrow]

theorem outcome_claim? (h : b.Consistent) (hd : d ∈ b.deployments) (name : String) :
    (b.claim? d name (b.resolved d).claimTemplate).outcome = .ok (b.claimOf d) := by
  rw [claimOf]
  cases hclaim : (b.resolved d).claimTemplate with
  | none => rfl
  | some template =>
    obtain ⟨claim, hget⟩ := (h.indexedIn hd).claims template hclaim
    simp [claim?, hget]

theorem outcome_statefulSet_eq_bind (h : b.Consistent) (hd : d ∈ b.deployments) :
    (b.statefulSet d).outcome =
      (b.podContent d (Names.statefulSet d) (b.mounts (Names.macrosConfigMap b.installation d))
        (b.resolved d).podTemplate).outcome >>= fun content =>
          .ok (b.assemble d content (b.claimOf d)) := by
  rw [statefulSet, h.selection?_eq hd]
  simp [outcome_claim? h hd, assemble]

/-- A deployment gets its StatefulSet unless it selects a pod template without containers. -/
theorem outcome_statefulSet (h : b.Consistent) (hd : d ∈ b.deployments)
    (hne : ∀ template, ¬b.SelectsEmptyPod template d) :
    (b.statefulSet d).outcome = .ok (b.replicaSet d) := by
  rw [outcome_statefulSet_eq_bind h hd, replicaSet, podOf]
  cases hpod : (b.resolved d).podTemplate with
  | none => rfl
  | some template =>
    -- the template is indexed, so that it may be empty is all that can stand against it
    obtain ⟨content, hget⟩ := (h.indexedIn hd).pods template hpod
    have hcontainers : content.containers ≠ [] := by
      intro hempty
      exact hne template ⟨hpod, content, hget, hempty⟩
    simp [podContent, hget, hcontainers]

theorem outcome_statefulSet_of_empty (h : b.Consistent) (hd : d ∈ b.deployments)
    {template : String} (hempty : b.SelectsEmptyPod template d) :
    (b.statefulSet d).outcome = .error (.emptyPodTemplate template d) := by
  obtain ⟨hpod, content, hget, hcontainers⟩ := hempty
  rw [outcome_statefulSet_eq_bind h hd, hpod]
  simp [podContent, hget, hcontainers]

/-- Nothing else can go wrong with a StatefulSet. -/
theorem statefulSet_eq_error_iff (h : b.Consistent) (hd : d ∈ b.deployments) {fault : Fault} :
    (b.statefulSet d).outcome = .error fault ↔
      ∃ template, b.SelectsEmptyPod template d ∧ fault = .emptyPodTemplate template d := by
  constructor
  · intro herror
    by_cases hempty : ∃ template, b.SelectsEmptyPod template d
    · obtain ⟨template, hempty⟩ := hempty
      rw [outcome_statefulSet_of_empty h hd hempty] at herror
      cases herror
      exact ⟨template, hempty, rfl⟩
    · rw [outcome_statefulSet h hd (not_exists.1 hempty)] at herror
      cases herror
  · rintro ⟨template, hempty, rfl⟩
    exact outcome_statefulSet_of_empty h hd hempty

/-- The StatefulSets of a basis are built when no deployment selects an empty pod template. -/
theorem statefulSets_eq_ok_iff (h : b.Consistent) {sets : List StatefulSet} :
    b.statefulSets.outcome = .ok sets ↔
      (∀ d ∈ b.deployments, ∀ template, ¬b.SelectsEmptyPod template d) ∧
        sets = b.deployments.map b.replicaSet := by
  have hbuilt (hne : ∀ d ∈ b.deployments, ∀ template, ¬b.SelectsEmptyPod template d) :
      b.statefulSets.outcome = .ok (b.deployments.map b.replicaSet) := by
    rw [statefulSets, Building.outcome_mapM]
    exact mapM_eq_ok_map fun d hd => outcome_statefulSet h hd (hne d hd)
  constructor
  · intro hok
    have hne : ∀ d ∈ b.deployments, ∀ template, ¬b.SelectsEmptyPod template d := by
      intro d hd template hempty
      rw [statefulSets, Building.outcome_mapM] at hok
      obtain ⟨set, hset⟩ := exists_of_mapM_eq_ok hok hd
      rw [outcome_statefulSet_of_empty h hd hempty] at hset
      cases hset
    rw [hbuilt hne] at hok
    exact ⟨hne, (Except.ok.inj hok).symm⟩
  · rintro ⟨hne, rfl⟩
    exact hbuilt hne

/-- The StatefulSets of a basis fail with the first deployment that selects an empty pod
template. -/
theorem statefulSets_eq_error_iff (h : b.Consistent) {fault : Fault} :
    b.statefulSets.outcome = .error fault ↔
      ∃ before d after template, b.deployments = before ++ d :: after ∧
        (∀ d' ∈ before, ∀ template', ¬b.SelectsEmptyPod template' d') ∧
        b.SelectsEmptyPod template d ∧ fault = .emptyPodTemplate template d := by
  rw [statefulSets, Building.outcome_mapM, mapM_eq_error_iff]
  constructor
  · rintro ⟨before, d, after, hsplit, hbefore, herror⟩
    have hd : d ∈ b.deployments := hsplit ▸ by simp
    obtain ⟨template, hempty, rfl⟩ := (statefulSet_eq_error_iff h hd).1 herror
    refine ⟨before, d, after, template, hsplit, ?_, hempty, rfl⟩
    intro d' hd' template' hempty'
    have hmem : d' ∈ b.deployments := hsplit ▸ List.mem_append_left _ hd'
    obtain ⟨set, hset⟩ := hbefore d' hd'
    rw [outcome_statefulSet_of_empty h hmem hempty'] at hset
    cases hset
  · rintro ⟨before, d, after, template, hsplit, hbefore, hempty, rfl⟩
    have hd : d ∈ b.deployments := hsplit ▸ by simp
    refine ⟨before, d, after, hsplit, ?_, outcome_statefulSet_of_empty h hd hempty⟩
    intro d' hd'
    have hmem : d' ∈ b.deployments := hsplit ▸ List.mem_append_left _ hd'
    exact ⟨_, outcome_statefulSet h hmem (hbefore d' hd')⟩

theorem fault_of_statefulSets (h : b.Consistent) {fault : Fault}
    (herror : b.statefulSets.outcome = .error fault) :
    ∃ template d, fault = .emptyPodTemplate template d := by
  obtain ⟨_, d, _, template, -, -, -, hfault⟩ := (statefulSets_eq_error_iff h).1 herror
  exact ⟨template, d, hfault⟩

end Basis

end ShardManifest
