import ShardManifest.Installation.Resource
import ShardManifest.Provision.StatefulSet

/-!
# Compilation

An installation is compiled to Services, ConfigMaps and StatefulSets. The installation needs a name,
its clusters need names that can become elements, and there has to be room for the list of its
deployments; everything else has a fallback, except a selected pod template without containers.

## Main definitions

- `Options`: what a caller can override
- `Objects`: what an installation is compiled to
- `Installation.basis`, `Installation.compile`
-/

namespace ShardManifest

open Kubernetes

structure Options where
  /-- The namespace to compile into, instead of the installation's own. -/
  inNamespace : Option String
  /-- The image of a container that no template describes. -/
  defaultImage : String
deriving DecidableEq, Repr

def Options.none : Options := ⟨.none, Names.defaultImage⟩

/-- What an installation is compiled to. -/
structure Objects where
  /-- The Service of the installation and those of its replicas. -/
  services : List Service
  /-- The shared ConfigMap and those of the replicas. -/
  configMaps : List ConfigMap
  statefulSets : List StatefulSet
  /-- The deployments, ascending. -/
  deployments : List String

namespace Objects

def empty : Objects := ⟨[], [], [], []⟩

def count (o : Objects) : Nat :=
  o.services.length + o.configMaps.length + o.statefulSets.length

def isEmpty (o : Objects) : Bool := o.count = 0

/-- All objects: Services, then ConfigMaps, then StatefulSets, so that what a pod needs comes before
the pod. -/
def documents (o : Objects) : List Document :=
  o.services.map Service.document
    ++ o.configMaps.map ConfigMap.document
    ++ o.statefulSets.map StatefulSet.document

end Objects

namespace Installation

/-- The namespace that an installation is compiled into. -/
def targetNamespace (i : Installation) (o : Options) : String :=
  o.inNamespace.getD i.namespaceOrDefault

/-- The name of an installation that has one. -/
def name? (i : Installation) : Option String :=
  i.metadata.name.filter fun name => !name.isEmpty

/-- The basis of an installation that can be compiled. -/
def basis (i : Installation) (o : Options) : Building Basis := do
  let name ← Building.require .missingName i.name?
  liftExcept i.spec.validate
  Basis.ofSpec name (i.targetNamespace o) o.defaultImage i.spec
where
  liftExcept : Except Fault Unit → Building Unit
    | .ok () => pure ()
    | .error fault => throw fault

/-- The objects of an installation, or why there are none, together with all reports. -/
def compile (i : Installation) (o : Options) : Building Objects := do
  let b ← i.basis o
  let services ← ExceptT.lift b.services
  let configMaps ← b.configMaps
  let statefulSets ← b.statefulSets
  Building.report (.compiled b.installation b.inNamespace b.deployments.length services.length
    configMaps.length statefulSets.length)
  return ⟨services, configMaps, statefulSets, b.deployments⟩

end Installation

end ShardManifest
