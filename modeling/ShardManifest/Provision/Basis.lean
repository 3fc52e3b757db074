import ShardManifest.Fragment.Bundle
import ShardManifest.SelectionIndex

/-!
# What objects are built from

Everything that is derived from a specification before any object is built. Nothing can go wrong
with it, unless there is no room for the list of deployments.

## Main definitions

- `Building`: a computation that reports and can fail
- `Basis`, `Basis.ofSpec`
-/

namespace ShardManifest

/-- What can go wrong while objects are built, together with what is reported on the way. -/
abbrev Building := ExceptT Fault Logged

namespace Building

def report (e : Event) : Building Unit := ExceptT.lift (Logged.report e)

/-- The value that has to be there. -/
def require {α : Type} (fault : Fault) : Option α → Building α
  | some a => pure a
  | none => throw fault

end Building

structure Basis where
  installation : String
  inNamespace : String
  /-- The image of a container that no template describes. -/
  defaultImage : String
  templates : TemplateIndex
  selections : SelectionIndex
  shared : Bundle
  macros : Dictionary String
  /-- The deployments, ascending. -/
  deployments : List String

namespace Basis

def ofSpec (installation inNamespace defaultImage : String) (s : Spec) : Building Basis := do
  let topology ← ExceptT.lift (Topology.survey s)
  let templates ← ExceptT.lift (TemplateIndex.ofLibrary s.templates)
  let selections ← ExceptT.lift (SelectionIndex.ofTopology topology templates)
  let shared ← ExceptT.lift (Bundle.compose installation inNamespace s topology)
  let deployments ←
    Building.require .capacityOverflow (topology.deployments? (Topology.capacity s))
  Building.report
    (.contextReady installation deployments.length selections.distinct shared.files.size)
  return {
    installation, inNamespace, defaultImage, templates, selections, shared, deployments
    macros := Fragment.allMacros installation topology }

/-- The ConfigMap that all replicas share. -/
def commonConfigMapName (b : Basis) : String := Names.commonConfigMap b.installation

/-- The metadata of an object of the installation. -/
def metadata (b : Basis) (name : String) : Kubernetes.Metadata :=
  .owned name b.inNamespace b.installation

end Basis

end ShardManifest
