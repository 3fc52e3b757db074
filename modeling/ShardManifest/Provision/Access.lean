import ShardManifest.Provision.Basis

/-!
# Services and ConfigMaps

How replicas are reached and what they read: one Service and one ConfigMap of the installation, and
one of each for every replica.

## Main definitions

- `Basis.services`, `Basis.configMaps`
-/

namespace ShardManifest

open Kubernetes

namespace Basis

def servicePorts : List ServicePort := NamedPort.all.map .ofNamed

/-- The Service in front of all replicas, which is reached from outside. -/
def installationService (b : Basis) : Logged Service := do
  let name := Names.installationService b.installation
  Logged.report (.installationService name)
  return .ofSpec (b.metadata name) {
    selector := Dictionary.empty.insert Names.installationLabel b.installation
    ports := servicePorts
    clusterIP := none
    exposure := some "LoadBalancer" }

/-- The Service of one replica, which gives its pod a name. -/
def replicaService (b : Basis) (deployment : String) : Logged Service := do
  let name := Names.replicaService deployment
  Logged.report (.replicaService name deployment)
  return .ofSpec (b.metadata name) {
    selector := (Selector.app (Names.statefulSet deployment)).matchLabels
    ports := servicePorts
    clusterIP := some Names.headlessAddress
    exposure := some "ClusterIP" }

/-- The Service of the installation, then those of its replicas. -/
def services (b : Basis) : Logged (List Service) := do
  let first ← b.installationService
  return first :: (← b.deployments.mapM b.replicaService)

/-- The ConfigMap that holds the shared fragments. -/
def commonConfigMap (b : Basis) : Building ConfigMap := do
  let name := b.commonConfigMapName
  Building.report (.commonConfigMap name b.shared.files.size)
  return .ofData (b.metadata name) b.shared.files

/-- The ConfigMap that holds the macros of one replica. -/
def macrosConfigMap (b : Basis) (deployment : String) : Building ConfigMap := do
  let content ← Building.require (.withoutMacros deployment) (b.macros.get? deployment)
  let name := Names.macrosConfigMap b.installation deployment
  Building.report (.macrosConfigMap name deployment)
  return (ConfigMap.ofData (b.metadata name) .empty).withData File.macros content

/-- The ConfigMap of the installation, then those of its replicas. -/
def configMaps (b : Basis) : Building (List ConfigMap) := do
  let first ← b.commonConfigMap
  return first :: (← b.deployments.mapM b.macrosConfigMap)

end Basis

end ShardManifest
