import ShardManifest.Provision.Access

/-!
# StatefulSets

Every replica runs as the only pod of a StatefulSet. The pod takes its containers and volumes from
the selected template, or gets one container of its own, and every container sees the shared
fragments and the macros.

## Main definitions

- `Basis.mounts`, `Basis.defaultContainer`: what the compiler adds to a pod
- `Basis.statefulSet`, `Basis.statefulSets`
-/

namespace ShardManifest

open Kubernetes

namespace Basis

/-- One file of a ConfigMap at its place in the configuration directory. -/
def fileMount (configMap filename : String) : VolumeMount :=
  .file configMap (Names.configPath filename) filename

/-- The shared fragments in the order of their filenames, then the macros. -/
def mounts (b : Basis) (macrosConfigMap : String) : List VolumeMount :=
  b.shared.files.keys.map (fileMount b.commonConfigMapName)
    ++ [fileMount macrosConfigMap File.macros]

/-- The container of a pod that no template describes. -/
def defaultContainer (b : Basis) (name : String) (mounts : List VolumeMount) : Container where
  name := name
  image := some b.defaultImage
  ports := some (NamedPort.all.map .ofNamed)
  volumeMounts := some mounts
  other := .empty

/-- The containers and volumes of a pod before the ConfigMaps become volumes. -/
def podContent (b : Basis) (deployment name : String) (mounts : List VolumeMount) :
    Option String → Building PodContent
  | some template => do
    let content ← Building.require (.unindexedPodTemplate template deployment)
      (b.templates.pods.get? template)
    if content.containers.isEmpty then throw (.emptyPodTemplate template deployment)
    Building.report (.podTemplateUsed name template)
    return ⟨content.containers.map (·.addMounts mounts), content.volumes⟩
  | none => do
    Building.report (.defaultContainerUsed name)
    return ⟨[b.defaultContainer name mounts], []⟩

/-- The claim of a deployment, if it selects one. -/
def claim? (b : Basis) (deployment name : String) : Option String → Building (Option NamedClaim)
  | some template => do
    let claim ← Building.require (.unindexedClaimTemplate template deployment)
      (b.templates.claims.get? template)
    Building.report (.claimTemplateUsed name template)
    return some claim
  | none => pure none

def dataMount : VolumeMount := .directory Names.dataVolume Names.dataDirectory

/-- Containers of which the first one sees the data directory. -/
def mountData : List Container → List Container
  | [] => []
  | first :: rest => first.addMounts [dataMount] :: rest

def statefulSet (b : Basis) (deployment : String) : Building StatefulSet := do
  let selection ← Building.require (.unselected deployment) (b.selections.selection? deployment)
  let name := Names.statefulSet deployment
  let macrosConfigMap := Names.macrosConfigMap b.installation deployment
  let content ← b.podContent deployment name (b.mounts macrosConfigMap) selection.podTemplate
  let claim ← b.claim? deployment name selection.claimTemplate
  let metadata := b.metadata name
  return .ofSpec metadata {
    replicas := 1
    serviceName := Names.replicaService deployment
    selector := .app name
    template := {
      metadata := ⟨name, (metadata.withLabel Names.appLabel name).labels⟩
      spec := {
        containers :=
          if claim.any NamedClaim.usesDefault then mountData content.containers
          else content.containers
        volumes := content.volumes
          ++ [.ofConfigMap b.commonConfigMapName, .ofConfigMap macrosConfigMap] } }
    volumeClaimTemplates := (claim.map NamedClaim.claim).toList }

def statefulSets (b : Basis) : Building (List StatefulSet) :=
  b.deployments.mapM b.statefulSet

end Basis

end ShardManifest
