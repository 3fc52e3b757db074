import ShardManifest.Kubernetes.Shapes.Container
import ShardManifest.Names

/-!
# Containers and volumes

Of a container the compiler sets the name, the image, the ports and the mounts; of a volume the
name and the ConfigMap behind it. Everything else is a `Payload` that passes through.

## Main definitions

- `Payload`: members that pass through
- `VolumeMount`, `ContainerPort`, `Container`
- `ConfigMapSource`, `Volume`
- `VolumeMount.file`, `VolumeMount.directory`, `Volume.ofConfigMap`: what the compiler adds
-/

namespace ShardManifest.Kubernetes

/-- Members that pass through the compiler, in alphabetical order. -/
abbrev Payload := Dictionary Document

namespace Payload

/-- Reads the members of a record that has the given fields. -/
def read? (fields : List Field) (entries : List (String × Node)) : Option Payload :=
  (readFields? fields entries).map Dictionary.ofList

/-- Puts a member back in its place. -/
def withText (p : Payload) (name value : String) : Payload :=
  p.insert name (.text value)

/-- Puts a member back in its place, if it is set. -/
def withOptional {α : Type} (p : Payload) (name : String) (write : α → Document) :
    Option α → Payload
  | some value => p.insert name (write value)
  | none => p

def document (p : Payload) : Document := .mapping p.entries

end Payload

/-- Reads a text that is empty when it is left out. -/
def textOrEmpty? (name : String) (entries : List (String × Node)) : Option String :=
  (lastOf? Node.text? name entries).map (·.getD "")

/-- A whole number of 32 bits with sign. -/
def int32? (node : Node) : Option Int32 := do
  let n ← node.integer?
  if fits 32 n then some (Int32.ofInt n) else none

/-- A place where a container sees a volume. -/
structure VolumeMount where
  mountPath : String
  mountPropagation : Option String
  name : String
  readOnly : Option Bool
  recursiveReadOnly : Option String
  /-- The file or directory of the volume that appears. -/
  subPath : Option String
  /-- The same, with variables. -/
  subPathExpr : Option String
deriving DecidableEq, Repr

namespace VolumeMount

/-- A whole volume at a directory. -/
def directory (volume path : String) : VolumeMount where
  mountPath := path
  mountPropagation := none
  name := volume
  readOnly := none
  recursiveReadOnly := none
  subPath := none
  subPathExpr := none

def file (volume path filename : String) : VolumeMount :=
  { directory volume path with subPath := some filename }

def read? (node : Node) : Option VolumeMount := do
  let e ← node.entries?
  return {
    mountPath := ← textOrEmpty? "mountPath" e
    mountPropagation := ← lastOf? Node.text? "mountPropagation" e
    name := ← textOrEmpty? "name" e
    readOnly := ← lastOf? Node.bool? "readOnly" e
    recursiveReadOnly := ← lastOf? Node.text? "recursiveReadOnly" e
    subPath := ← lastOf? Node.text? "subPath" e
    subPathExpr := ← lastOf? Node.text? "subPathExpr" e }

def document (m : VolumeMount) : Document :=
  .mapping <|
    Document.always "mountPath" (.text m.mountPath)
    ++ Document.whenSet "mountPropagation" .text m.mountPropagation
    ++ Document.always "name" (.text m.name)
    ++ Document.whenSet "readOnly" .bool m.readOnly
    ++ Document.whenSet "recursiveReadOnly" .text m.recursiveReadOnly
    ++ Document.whenSet "subPath" .text m.subPath
    ++ Document.whenSet "subPathExpr" .text m.subPathExpr

end VolumeMount

/-- A port that a container listens on. -/
structure ContainerPort where
  containerPort : Int32
  /-- The address of the host that is bound. -/
  hostIP : Option String
  hostPort : Option Int32
  name : Option String
  protocol : Option String
deriving DecidableEq, Repr

namespace ContainerPort

/-- A named port of every replica. -/
def ofNamed (p : NamedPort) : ContainerPort where
  containerPort := Int32.ofNat p.number.toNat
  hostIP := none
  hostPort := none
  name := some p.name
  protocol := none

def read? (node : Node) : Option ContainerPort := do
  let e ← node.entries?
  return {
    containerPort := (← lastOf? int32? "containerPort" e).getD 0
    hostIP := ← lastOf? Node.text? "hostIP" e
    hostPort := ← lastOf? int32? "hostPort" e
    name := ← lastOf? Node.text? "name" e
    protocol := ← lastOf? Node.text? "protocol" e }

def document (p : ContainerPort) : Document :=
  .mapping <|
    Document.always "containerPort" (.integer p.containerPort.toInt)
    ++ Document.whenSet "hostIP" .text p.hostIP
    ++ Document.whenSet "hostPort" (fun n => .integer n.toInt) p.hostPort
    ++ Document.whenSet "name" .text p.name
    ++ Document.whenSet "protocol" .text p.protocol

end ContainerPort

structure Container where
  name : String
  image : Option String
  ports : Option (List ContainerPort)
  volumeMounts : Option (List VolumeMount)
  other : Payload

namespace Container

/-- A container with more mounts behind its own. -/
def addMounts (c : Container) (mounts : List VolumeMount) : Container :=
  { c with volumeMounts := some (c.volumeMounts.getD [] ++ mounts) }

def read? (node : Node) : Option Container := do
  let e ← node.entries?
  return {
    name := ← textOrEmpty? "name" e
    image := ← lastOf? Node.text? "image" e
    ports := ← lastOf? (Node.listOf? ContainerPort.read?) "ports" e
    volumeMounts := ← lastOf? (Node.listOf? VolumeMount.read?) "volumeMounts" e
    other := ← Payload.read? Shapes.containerFields e }

def document (c : Container) : Document :=
  ((((c.other.withText "name" c.name).withOptional "image" .text c.image).withOptional "ports"
    (fun ps => .list (ps.map ContainerPort.document)) c.ports).withOptional "volumeMounts"
    (fun ms => .list (ms.map VolumeMount.document)) c.volumeMounts).document

end Container

structure ConfigMapSource where
  name : String
  other : Payload

namespace ConfigMapSource

def read? (node : Node) : Option ConfigMapSource := do
  let e ← node.entries?
  return {
    name := ← textOrEmpty? "name" e
    other := ← Payload.read? Shapes.configMapSourceFields e }

def document (s : ConfigMapSource) : Document :=
  (s.other.withText "name" s.name).document

end ConfigMapSource

structure Volume where
  name : String
  /-- The ConfigMap behind it, if one is. -/
  configMap : Option ConfigMapSource
  other : Payload

namespace Volume

/-- A volume backed by the ConfigMap of the same name. -/
def ofConfigMap (name : String) : Volume where
  name := name
  configMap := some ⟨name, .empty⟩
  other := .empty

def read? (node : Node) : Option Volume := do
  let e ← node.entries?
  return {
    name := ← textOrEmpty? "name" e
    configMap := ← lastOf? ConfigMapSource.read? "configMap" e
    other := ← Payload.read? Shapes.volumeFields e }

def document (v : Volume) : Document :=
  ((v.other.withText "name" v.name).withOptional "configMap" ConfigMapSource.document
    v.configMap).document

end Volume

/-- What a claim for storage asks for; it passes through as a whole. -/
structure ClaimSpec where
  payload : Document

namespace ClaimSpec

/-- The claim that asks for nothing in particular. -/
def empty : ClaimSpec := ⟨.mapping []⟩

def read? (node : Node) : Option ClaimSpec :=
  (Shapes.persistentVolumeClaimSpec.read? node).map ClaimSpec.mk

def document (c : ClaimSpec) : Document := c.payload

end ClaimSpec

end ShardManifest.Kubernetes
