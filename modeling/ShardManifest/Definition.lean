import ShardManifest.Installation.Resource
import ShardManifest.Schema

/-!
# The definition of the resource

A cluster learns of installations by a definition, which names the resource and holds the schema of
its specification.

## Main definitions

- `Definition.spec`: the schema of a specification
- `Definition.document`: the definition
-/

namespace ShardManifest.Definition

def selection : Schema :=
  .record [
    ⟨"podTemplate", "Name of a pod template from `spec.templates.podTemplates`", .nullable, .text⟩,
    ⟨"volumeClaimTemplate",
      "Name of a claim template from `spec.templates.volumeClaimTemplates`", .nullable, .text⟩]

def deployment (description : String) : SchemaField :=
  ⟨"deployment", description, .defaulted Selection.unset.document, selection⟩

def replica : Schema :=
  .record [
    ⟨"port", "Client port advertised in `remote_servers.xml` (default 9000)", .nullable,
      .natural "uint16"⟩,
    deployment "Deployment of this replica"]

def shard : Schema :=
  .record [
    ⟨"weight", "Shard weight for distributed inserts (default 1)", .nullable, .natural "uint32"⟩,
    ⟨"internalReplication",
      "Write to one replica and let replication do the rest (default true)", .nullable, .truth⟩,
    deployment "Deployment applied to every replica of the shard",
    ⟨"replicasCount", "Number of default replicas when `replicas` is empty", .nullable,
      .natural "uint32"⟩,
    ⟨"replicas", "Explicit replicas", .optional,
      .listOf (replica.described "An explicitly declared replica")⟩]

def layout : Schema :=
  .record [
    ⟨"type", "Layout kind", .defaulted (.text LayoutKind.standard.name),
      .choice [LayoutKind.standard.name, LayoutKind.advanced.name]⟩,
    ⟨"shardsCount", "Number of shards (Standard layout, default 1)", .nullable,
      .natural "uint32"⟩,
    ⟨"replicasCount", "Replicas per shard (Standard layout, default for Advanced shards)",
      .nullable, .natural "uint32"⟩,
    ⟨"shards", "Explicit shards (Advanced layout)", .optional,
      .listOf (shard.described "An explicitly declared shard")⟩]

def cluster : Schema :=
  .record [
    ⟨"name", "Cluster name, used as the element name in `remote_servers.xml`", .required, .text⟩,
    ⟨"layout", "Shard/replica layout", .defaulted Layout.simplest.document, layout⟩,
    deployment "Deployment applied to every replica of the cluster"]

def zookeeper : Schema :=
  let node := Schema.record [
    ⟨"host", "Hostname", .required, .text⟩,
    ⟨"port", "Client port (default 2181)", .nullable, .natural "uint16"⟩]
  .record [
    ⟨"nodes", "Ensemble members", .optional,
      .listOf (node.described "One coordination service member")⟩]

def setting : Schema :=
  .described "A configuration value" <| .anyOf [
    Schema.truth.described "`true` / `false`",
    (Schema.integer "int64").described "Integer value",
    (Schema.natural "uint64").described "Integer above `i64::MAX`",
    (Schema.number "double").described "Floating point value",
    Schema.text.described "String value",
    (Schema.listOf .text).described "Repeated element, e.g. `networks/ip`"]

def settings (name description : String) : SchemaField :=
  ⟨name, description, .optional, .mapOf setting⟩

/-- What all servers share, and the clusters. -/
def configuration : Schema :=
  .record [
    ⟨"zookeeper", "Coordination service", .defaulted Zookeeper.empty.document, zookeeper⟩,
    settings "users" "User accounts, keyed by slash-separated path (`alice/password`)",
    settings "profiles" "Settings profiles, keyed by path (`default/max_memory_usage`)",
    settings "quotas" "Quotas, keyed by path (`default/interval/duration`)",
    settings "settings" "Global server settings, keyed by path",
    ⟨"clusters", "Logical clusters", .optional, .listOf (cluster.described "A logical cluster")⟩]

/-- What holds for all replicas that say nothing else. -/
def defaults : Schema :=
  .record [
    ⟨"replicasUseFQDN",
      "Address replicas by FQDN in `remote_servers.xml` instead of Service name",
      .defaulted (.bool false), .truth⟩,
    deployment "Deployment every replica starts from"]

def podTemplate : Schema :=
  .record [
    ⟨"name", "Template name", .required, .text⟩,
    ⟨"containers", "Containers, copied verbatim into the pod", .defaulted (.list []),
      .listOf .payload⟩,
    ⟨"volumes", "Volumes, copied verbatim into the pod", .optional, .listOf .payload⟩]

/-- A claim as it is declared. -/
def claim : Schema :=
  let metadata := Schema.record [
    ⟨"name", "Claim name; `USE_DEFAULT_NAME` or unset selects the default data volume",
      .nullable, .text⟩,
    ⟨"labels", "Labels", .optional, .mapOf .text⟩]
  .record [
    ⟨"metadata", "Claim metadata", .defaulted DeclaredClaimMetadata.unset.document, metadata⟩,
    ⟨"spec", "Claim spec", .defaulted Kubernetes.ClaimSpec.empty.document, .payload⟩]

def templates : Schema :=
  let claimTemplate := Schema.record [
    ⟨"name", "Template name", .required, .text⟩,
    ⟨"template", "The claim", .required, claim⟩]
  .record [
    ⟨"podTemplates", "Named pod templates", .optional,
      .listOf (podTemplate.described "Containers and volumes replacing the default container")⟩,
    ⟨"volumeClaimTemplates", "Named persistent volume claim templates", .optional,
      .listOf (claimTemplate.described "Persistent storage request attached to a StatefulSet")⟩]

def spec : Schema :=
  .record [
    ⟨"defaults", "Installation-wide defaults", .defaulted Defaults.plain.document, defaults⟩,
    ⟨"configuration", "Shared configuration and cluster topology",
      .defaulted Configuration.empty.document, configuration⟩,
    ⟨"templates", "Named templates", .defaulted TemplateLibrary.empty.document, templates⟩]

def resource : Schema :=
  let members := Schema.record [
    ⟨"spec", "Specification for a ClickHouseInstallation", .required, spec⟩]
  (members.described
    "Auto-generated derived type for ClickHouseInstallationSpec via `CustomResource`").insert
    "title" (.text Installation.kind)

/-- The name of the resource for one installation. -/
def singular : String := "clickhouseinstallation"

/-- The name of the resource for several installations. -/
def plural : String := "clickhouseinstallations"

def names : Document :=
  .mapping [
    ("categories", .list []),
    ("kind", .text Installation.kind),
    ("plural", .text plural),
    ("shortNames", .list [.text "chi"]),
    ("singular", .text singular)]

/-- The only version of the resource. -/
def version : Document :=
  let age := Document.mapping [
    ("jsonPath", .text ".metadata.creationTimestamp"), ("name", .text "Age"), ("type", .text "date")]
  .mapping [
    ("additionalPrinterColumns", .list [age]),
    ("name", .text Installation.version),
    ("schema", .mapping [("openAPIV3Schema", resource.document)]),
    ("served", .bool true),
    ("storage", .bool true),
    ("subresources", .mapping [])]

def document : Document :=
  .mapping [
    ("apiVersion", .text "apiextensions.k8s.io/v1"),
    ("kind", .text "CustomResourceDefinition"),
    ("metadata", .mapping [("name", .text (plural ++ "." ++ Installation.group))]),
    ("spec", .mapping [
      ("group", .text Installation.group),
      ("names", names),
      ("scope", .text "Namespaced"),
      ("versions", .list [version])])]

end ShardManifest.Definition
