import ShardManifest.Installation.Spec

/-!
# Installations as resources

An installation is a resource of the cluster: metadata, of which the name and the namespace matter
here, and a specification.

## Main definitions

- `ResourceMetadata`, `Installation`
- `Installation.namespaceOrDefault`: the namespace it lives in
-/

namespace ShardManifest

open Kubernetes

structure ResourceMetadata where
  name : Option String
  inNamespace : Option String
  other : Payload

namespace ResourceMetadata

def read? (node : Node) : Option ResourceMetadata := do
  let e ← node.entries?
  let fields := Shapes.objectMetaFields.filter fun f => f.name ∉ ["name", "namespace"]
  return {
    name := ← lastOf? Node.text? "name" e
    inNamespace := ← lastOf? Node.text? "namespace" e
    other := ← Payload.read? fields e }

def document (m : ResourceMetadata) : Document :=
  ((m.other.withOptional "name" .text m.name).withOptional "namespace" .text
    m.inNamespace).document

end ResourceMetadata

structure Installation where
  metadata : ResourceMetadata
  spec : Spec

namespace Installation

def group : String := "clickhouse.altinity.com"

def version : String := "v1"

def kind : String := "ClickHouseInstallation"

/-- The namespace that an installation lives in. -/
def namespaceOrDefault (i : Installation) : String :=
  i.metadata.inNamespace.getD Names.defaultNamespace

/-- Reads an installation; its version and kind are not looked at. -/
def read? (node : Node) : Option Installation := do
  let m ← node.members? ["metadata", "spec"]
  return {
    metadata := ← m.required? "metadata" ResourceMetadata.read?
    spec := ← m.required? "spec" Spec.read? }

def document (i : Installation) : Document :=
  .mapping
    [("apiVersion", .text (group ++ "/" ++ version)), ("kind", .text kind),
      ("metadata", i.metadata.document), ("spec", i.spec.document)]

end Installation

end ShardManifest
