import ShardManifest.Kubernetes.Object

/-!
# The template library of an installation

An installation declares named templates: for pods, containers and volumes that are copied into the
pod; for claims, a request for storage under a name of its own or under the reserved one.

## Main definitions

- `PodDeclaration`, `ClaimDeclaration`: templates as they are declared
- `TemplateLibrary`: all templates of an installation, in the order of declaration
-/

namespace ShardManifest

open Kubernetes

structure PodDeclaration where
  /-- The name under which replicas select it. -/
  name : String
  containers : List Container
  volumes : List Volume

namespace PodDeclaration

def read? (node : Node) : Option PodDeclaration := do
  let m ← node.members? ["name", "containers", "volumes"]
  return {
    name := ← m.required? "name" Node.text?
    containers := ← m.orDefault? "containers" [] (Node.listOf? Container.read?)
    volumes := ← m.orDefault? "volumes" [] (Node.listOf? Volume.read?) }

def document (p : PodDeclaration) : Document :=
  .mapping <|
    Document.always "name" (.text p.name)
    ++ Document.always "containers" (.list (p.containers.map Container.document))
    ++ Document.whenAny "volumes" Volume.document p.volumes

end PodDeclaration

/-- The metadata of a declared claim. -/
structure DeclaredClaimMetadata where
  /-- The claim's name, if it has one of its own. -/
  name : Option String
  labels : Texts
deriving DecidableEq, Repr

namespace DeclaredClaimMetadata

def unset : DeclaredClaimMetadata := ⟨none, .empty⟩

/-- Reads the metadata of a declared claim. -/
def read? (node : Node) : Option DeclaredClaimMetadata := do
  let m ← node.members? ["name", "labels"]
  return {
    name := ← m.optional? "name" Node.text?
    labels := ← m.orDefault? "labels" .empty Node.textMap? }

/-- Writes the metadata of a declared claim. -/
def document (d : DeclaredClaimMetadata) : Document :=
  .mapping <|
    Document.whenSet "name" .text d.name
    ++ whenTexts "labels" d.labels

end DeclaredClaimMetadata

/-- A claim as it is declared. -/
structure DeclaredClaim where
  metadata : DeclaredClaimMetadata
  spec : ClaimSpec

namespace DeclaredClaim

def read? (node : Node) : Option DeclaredClaim := do
  let m ← node.members? ["metadata", "spec"]
  return {
    metadata := ← m.orDefault? "metadata" .unset DeclaredClaimMetadata.read?
    spec := ← m.orDefault? "spec" .empty ClaimSpec.read? }

def document (d : DeclaredClaim) : Document :=
  .mapping [("metadata", d.metadata.document), ("spec", d.spec.document)]

end DeclaredClaim

structure ClaimDeclaration where
  /-- The name under which replicas select it. -/
  name : String
  claim : DeclaredClaim

namespace ClaimDeclaration

def read? (node : Node) : Option ClaimDeclaration := do
  let m ← node.members? ["name", "template"]
  return {
    name := ← m.required? "name" Node.text?
    claim := ← m.required? "template" DeclaredClaim.read? }

def document (c : ClaimDeclaration) : Document :=
  .mapping [("name", .text c.name), ("template", c.claim.document)]

end ClaimDeclaration

structure TemplateLibrary where
  pods : List PodDeclaration
  claims : List ClaimDeclaration

namespace TemplateLibrary

def empty : TemplateLibrary := ⟨[], []⟩

def read? (node : Node) : Option TemplateLibrary := do
  let m ← node.members? ["podTemplates", "volumeClaimTemplates"]
  return {
    pods := ← m.orDefault? "podTemplates" [] (Node.listOf? PodDeclaration.read?)
    claims := ← m.orDefault? "volumeClaimTemplates" [] (Node.listOf? ClaimDeclaration.read?) }

def document (t : TemplateLibrary) : Document :=
  .mapping <|
    Document.whenAny "podTemplates" PodDeclaration.document t.pods
    ++ Document.whenAny "volumeClaimTemplates" ClaimDeclaration.document t.claims

end TemplateLibrary

end ShardManifest
