import ShardManifest.Kubernetes.Pod
import ShardManifest.Source.Record

/-!
# Compiled objects

The kinds of object that an installation is compiled to, each with what is read from it and how it
is written.

## Main definitions

- `Metadata`, `ownershipLabels`, `Selector`: how objects are named and found
- `Service`, `ConfigMap`, `StatefulSet`, `Claim`: the objects
-/

namespace ShardManifest.Kubernetes

/-- Labels and other texts by name. -/
abbrev Texts := Dictionary String

def textsDocument (t : Texts) : Document :=
  .mapping (t.entries.map fun e => (e.1, .text e.2))

/-- Texts that are written unless there are none. -/
def whenTexts (name : String) (t : Texts) : List (String × Document) :=
  if t.isEmpty then [] else [(name, textsDocument t)]

/-- The labels of every object of an installation. -/
def ownershipLabels (installation : String) : Texts :=
  (Dictionary.empty.insert Names.ownerLabel.1 Names.ownerLabel.2).insert
    Names.installationLabel installation

/-- The metadata of a compiled object. -/
structure Metadata where
  name : String
  inNamespace : String
  labels : Texts
  annotations : Texts
deriving DecidableEq, Repr

namespace Metadata

/-- Metadata with the labels of an installation. -/
def owned (name inNamespace installation : String) : Metadata where
  name := name
  inNamespace := inNamespace
  labels := ownershipLabels installation
  annotations := .empty

def withLabel (m : Metadata) (key value : String) : Metadata :=
  { m with labels := m.labels.insert key value }

def read? (node : Node) : Option Metadata := do
  let m ← node.members? ["name", "namespace", "labels", "annotations"]
  return {
    name := ← m.required? "name" Node.text?
    inNamespace := ← m.required? "namespace" Node.text?
    labels := ← m.orDefault? "labels" .empty Node.textMap?
    annotations := ← m.orDefault? "annotations" .empty Node.textMap? }

def document (m : Metadata) : Document :=
  .mapping <|
    Document.always "name" (.text m.name)
    ++ Document.always "namespace" (.text m.inNamespace)
    ++ whenTexts "labels" m.labels
    ++ whenTexts "annotations" m.annotations

end Metadata

structure Selector where
  matchLabels : Texts
deriving DecidableEq, Repr

namespace Selector

/-- Selects the pod of one StatefulSet. -/
def app (statefulSet : String) : Selector :=
  ⟨Dictionary.empty.insert Names.appLabel statefulSet⟩

def read? (node : Node) : Option Selector := do
  let m ← node.members? ["matchLabels"]
  return ⟨← m.required? "matchLabels" Node.textMap?⟩

def document (s : Selector) : Document :=
  .mapping [("matchLabels", textsDocument s.matchLabels)]

end Selector

structure ConfigMap where
  apiVersion : String
  kind : String
  metadata : Metadata
  data : Texts
deriving DecidableEq, Repr

namespace ConfigMap

def ofData (metadata : Metadata) (data : Texts) : ConfigMap :=
  ⟨"v1", "ConfigMap", metadata, data⟩

/-- A ConfigMap with one more file. -/
def withData (c : ConfigMap) (filename content : String) : ConfigMap :=
  { c with data := c.data.insert filename content }

def read? (node : Node) : Option ConfigMap := do
  let m ← node.members? ["apiVersion", "kind", "metadata", "data"]
  return {
    apiVersion := ← m.required? "apiVersion" Node.text?
    kind := ← m.required? "kind" Node.text?
    metadata := ← m.required? "metadata" Metadata.read?
    data := ← m.orDefault? "data" .empty Node.textMap? }

def document (c : ConfigMap) : Document :=
  .mapping <|
    Document.always "apiVersion" (.text c.apiVersion)
    ++ Document.always "kind" (.text c.kind)
    ++ Document.always "metadata" c.metadata.document
    ++ whenTexts "data" c.data

end ConfigMap

structure ServicePort where
  name : Option String
  port : UInt16
  /-- The number on the pods, if another. -/
  targetPort : Option UInt16
  protocol : Option String
deriving DecidableEq, Repr

namespace ServicePort

/-- A named port of every replica. -/
def ofNamed (p : NamedPort) : ServicePort :=
  ⟨some p.name, p.number, none, none⟩

def read? (node : Node) : Option ServicePort := do
  let m ← node.members? ["name", "port", "targetPort", "protocol"]
  return {
    name := ← m.optional? "name" Node.text?
    port := ← m.required? "port" Node.word16?
    targetPort := ← m.optional? "targetPort" Node.word16?
    protocol := ← m.optional? "protocol" Node.text? }

def document (p : ServicePort) : Document :=
  .mapping <|
    Document.whenSet "name" .text p.name
    ++ Document.always "port" (.integer p.port.toNat)
    ++ Document.whenSet "targetPort" (fun n => .integer n.toNat) p.targetPort
    ++ Document.whenSet "protocol" .text p.protocol

end ServicePort

/-- Which pods a Service reaches, and how. -/
structure ServiceSpec where
  /-- What the labels of its pods contain. -/
  selector : Texts
  ports : List ServicePort
  /-- Its address in the cluster, if fixed. -/
  clusterIP : Option String
  exposure : Option String
deriving DecidableEq, Repr

namespace ServiceSpec

/-- Reads the specification of a Service. -/
def read? (node : Node) : Option ServiceSpec := do
  let m ← node.members? ["selector", "ports", "clusterIP", "type"]
  return {
    selector := ← m.required? "selector" Node.textMap?
    ports := ← m.required? "ports" (Node.listOf? ServicePort.read?)
    clusterIP := ← m.optional? "clusterIP" Node.text?
    exposure := ← m.optional? "type" Node.text? }

/-- Writes the specification of a Service. -/
def document (s : ServiceSpec) : Document :=
  .mapping <|
    Document.always "selector" (textsDocument s.selector)
    ++ Document.always "ports" (.list (s.ports.map ServicePort.document))
    ++ Document.whenSet "clusterIP" .text s.clusterIP
    ++ Document.whenSet "type" .text s.exposure

end ServiceSpec

/-- A name under which pods are reached. -/
structure Service where
  apiVersion : String
  kind : String
  metadata : Metadata
  spec : ServiceSpec
deriving DecidableEq, Repr

namespace Service

def ofSpec (metadata : Metadata) (spec : ServiceSpec) : Service :=
  ⟨"v1", "Service", metadata, spec⟩

def read? (node : Node) : Option Service := do
  let m ← node.members? ["apiVersion", "kind", "metadata", "spec"]
  return {
    apiVersion := ← m.required? "apiVersion" Node.text?
    kind := ← m.required? "kind" Node.text?
    metadata := ← m.required? "metadata" Metadata.read?
    spec := ← m.required? "spec" ServiceSpec.read? }

def document (s : Service) : Document :=
  .mapping
    [("apiVersion", .text s.apiVersion), ("kind", .text s.kind),
      ("metadata", s.metadata.document), ("spec", s.spec.document)]

end Service

/-- The name and the labels of a claim. -/
structure ClaimMetadata where
  /-- The claim's name, which is also that of its volume. -/
  name : String
  labels : Texts
deriving DecidableEq, Repr

namespace ClaimMetadata

/-- Reads the metadata of a claim. -/
def read? (node : Node) : Option ClaimMetadata := do
  let m ← node.members? ["name", "labels"]
  return {
    name := ← m.required? "name" Node.text?
    labels := ← m.orDefault? "labels" .empty Node.textMap? }

/-- Writes the metadata of a claim. -/
def document (c : ClaimMetadata) : Document :=
  .mapping <|
    Document.always "name" (.text c.name)
    ++ whenTexts "labels" c.labels

end ClaimMetadata

structure Claim where
  metadata : ClaimMetadata
  spec : ClaimSpec

namespace Claim

def read? (node : Node) : Option Claim := do
  let m ← node.members? ["metadata", "spec"]
  return {
    metadata := ← m.required? "metadata" ClaimMetadata.read?
    spec := ← m.required? "spec" ClaimSpec.read? }

def document (c : Claim) : Document :=
  .mapping [("metadata", c.metadata.document), ("spec", c.spec.document)]

end Claim

/-- The name and the labels of a pod. -/
structure PodMetadata where
  name : String
  labels : Texts
deriving DecidableEq, Repr

namespace PodMetadata

/-- Reads the metadata of a pod. -/
def read? (node : Node) : Option PodMetadata := do
  let m ← node.members? ["name", "labels"]
  return {
    name := ← m.required? "name" Node.text?
    labels := ← m.required? "labels" Node.textMap? }

/-- Writes the metadata of a pod. -/
def document (p : PodMetadata) : Document :=
  .mapping [("name", .text p.name), ("labels", textsDocument p.labels)]

end PodMetadata

/-- The containers and volumes of a pod. -/
structure PodSpec where
  containers : List Container
  volumes : List Volume

namespace PodSpec

/-- Reads the specification of a pod. -/
def read? (node : Node) : Option PodSpec := do
  let m ← node.members? ["containers", "volumes"]
  return {
    containers := ← m.required? "containers" (Node.listOf? Container.read?)
    volumes := ← m.orDefault? "volumes" [] (Node.listOf? Volume.read?) }

/-- Writes the specification of a pod. -/
def document (p : PodSpec) : Document :=
  .mapping <|
    Document.always "containers" (.list (p.containers.map Container.document))
    ++ Document.whenAny "volumes" Volume.document p.volumes

end PodSpec

/-- The pod that a StatefulSet runs. -/
structure PodTemplate where
  metadata : PodMetadata
  spec : PodSpec

namespace PodTemplate

def read? (node : Node) : Option PodTemplate := do
  let m ← node.members? ["metadata", "spec"]
  return {
    metadata := ← m.required? "metadata" PodMetadata.read?
    spec := ← m.required? "spec" PodSpec.read? }

def document (p : PodTemplate) : Document :=
  .mapping [("metadata", p.metadata.document), ("spec", p.spec.document)]

end PodTemplate

structure StatefulSetSpec where
  replicas : UInt32
  /-- The Service that gives the pods their names. -/
  serviceName : String
  selector : Selector
  template : PodTemplate
  volumeClaimTemplates : List Claim

namespace StatefulSetSpec

/-- Reads the specification of a StatefulSet. -/
def read? (node : Node) : Option StatefulSetSpec := do
  let m ← node.members? ["replicas", "serviceName", "selector", "template",
    "volumeClaimTemplates"]
  return {
    replicas := ← m.required? "replicas" Node.word32?
    serviceName := ← m.required? "serviceName" Node.text?
    selector := ← m.required? "selector" Selector.read?
    template := ← m.required? "template" PodTemplate.read?
    volumeClaimTemplates :=
      ← m.orDefault? "volumeClaimTemplates" [] (Node.listOf? Claim.read?) }

/-- Writes the specification of a StatefulSet. -/
def document (s : StatefulSetSpec) : Document :=
  .mapping <|
    Document.always "replicas" (.integer s.replicas.toNat)
    ++ Document.always "serviceName" (.text s.serviceName)
    ++ Document.always "selector" s.selector.document
    ++ Document.always "template" s.template.document
    ++ Document.whenAny "volumeClaimTemplates" Claim.document s.volumeClaimTemplates

end StatefulSetSpec

/-- Pods with stable names and storage. -/
structure StatefulSet where
  apiVersion : String
  kind : String
  metadata : Metadata
  spec : StatefulSetSpec

namespace StatefulSet

def ofSpec (metadata : Metadata) (spec : StatefulSetSpec) : StatefulSet :=
  ⟨"apps/v1", "StatefulSet", metadata, spec⟩

def read? (node : Node) : Option StatefulSet := do
  let m ← node.members? ["apiVersion", "kind", "metadata", "spec"]
  return {
    apiVersion := ← m.required? "apiVersion" Node.text?
    kind := ← m.required? "kind" Node.text?
    metadata := ← m.required? "metadata" Metadata.read?
    spec := ← m.required? "spec" StatefulSetSpec.read? }

def document (s : StatefulSet) : Document :=
  .mapping
    [("apiVersion", .text s.apiVersion), ("kind", .text s.kind),
      ("metadata", s.metadata.document), ("spec", s.spec.document)]

end StatefulSet

end ShardManifest.Kubernetes
