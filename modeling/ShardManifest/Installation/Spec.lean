import ShardManifest.Fault
import ShardManifest.Installation.Cluster
import ShardManifest.Installation.Setting
import ShardManifest.Installation.TemplateLibrary
import ShardManifest.Xml.Escape

/-!
# The specification of an installation

An installation says how its clusters are laid out, what its servers share as configuration, and
which templates its replicas can select.

## Main definitions

- `Zookeeper`, `Configuration`, `Defaults`, `Spec`
- `Spec.validate`: the cluster names must be able to become elements
- `Spec.deploymentBound`: no more replicas than this can be declared
-/

namespace ShardManifest

/-- A member of the coordination service. -/
structure ZookeeperNode where
  host : String
  port : Option UInt16
deriving DecidableEq, Repr

namespace ZookeeperNode

def read? (node : Node) : Option ZookeeperNode := do
  let m ← node.members? ["host", "port"]
  return {
    host := ← m.required? "host" Node.text?
    port := ← m.optional? "port" Node.word16? }

def document (z : ZookeeperNode) : Document :=
  .mapping <|
    Document.always "host" (.text z.host)
    ++ Document.whenSet "port" (fun n => .integer n.toNat) z.port

end ZookeeperNode

structure Zookeeper where
  nodes : List ZookeeperNode
deriving DecidableEq, Repr

namespace Zookeeper

def empty : Zookeeper := ⟨[]⟩

def read? (node : Node) : Option Zookeeper := do
  let m ← node.members? ["nodes"]
  return ⟨← m.orDefault? "nodes" [] (Node.listOf? ZookeeperNode.read?)⟩

def document (z : Zookeeper) : Document :=
  .mapping (Document.whenAny "nodes" ZookeeperNode.document z.nodes)

end Zookeeper

/-- What all servers share, and the clusters. -/
structure Configuration where
  zookeeper : Zookeeper
  users : Settings
  profiles : Settings
  quotas : Settings
  settings : Settings
  clusters : List ClusterSpec
deriving DecidableEq, Repr

namespace Configuration

def empty : Configuration := ⟨.empty, .empty, .empty, .empty, .empty, []⟩

def read? (node : Node) : Option Configuration := do
  let m ← node.members? ["zookeeper", "users", "profiles", "quotas", "settings", "clusters"]
  return {
    zookeeper := ← m.orDefault? "zookeeper" .empty Zookeeper.read?
    users := ← m.orDefault? "users" .empty Settings.read?
    profiles := ← m.orDefault? "profiles" .empty Settings.read?
    quotas := ← m.orDefault? "quotas" .empty Settings.read?
    settings := ← m.orDefault? "settings" .empty Settings.read?
    clusters := ← m.orDefault? "clusters" [] (Node.listOf? ClusterSpec.read?) }

def document (c : Configuration) : Document :=
  .mapping <|
    Document.always "zookeeper" c.zookeeper.document
    ++ Settings.member "users" c.users
    ++ Settings.member "profiles" c.profiles
    ++ Settings.member "quotas" c.quotas
    ++ Settings.member "settings" c.settings
    ++ Document.whenAny "clusters" ClusterSpec.document c.clusters

end Configuration

/-- What holds for all replicas that say nothing else. -/
structure Defaults where
  /-- Whether replicas are reached by their fully qualified names. -/
  qualifiedHosts : Bool
  selection : Selection
deriving DecidableEq, Repr

namespace Defaults

def plain : Defaults := ⟨false, .unset⟩

def read? (node : Node) : Option Defaults := do
  let m ← node.members? ["replicasUseFQDN", "deployment"]
  return {
    qualifiedHosts := ← m.orDefault? "replicasUseFQDN" false Node.bool?
    selection := ← m.orDefault? "deployment" .unset Selection.read? }

def document (d : Defaults) : Document :=
  .mapping [("replicasUseFQDN", .bool d.qualifiedHosts), ("deployment", d.selection.document)]

end Defaults

structure Spec where
  defaults : Defaults
  configuration : Configuration
  templates : TemplateLibrary

namespace Spec

def empty : Spec := ⟨.plain, .empty, .empty⟩

def read? (node : Node) : Option Spec := do
  let m ← node.members? ["defaults", "configuration", "templates"]
  return {
    defaults := ← m.orDefault? "defaults" .plain Defaults.read?
    configuration := ← m.orDefault? "configuration" .empty Configuration.read?
    templates := ← m.orDefault? "templates" .empty TemplateLibrary.read? }

def document (s : Spec) : Document :=
  .mapping
    [("defaults", s.defaults.document), ("configuration", s.configuration.document),
      ("templates", s.templates.document)]

/-- The first cluster whose name cannot become an element. -/
def validate (s : Spec) : Except Fault Unit :=
  match s.configuration.clusters.find? fun c => !Xml.isElementName c.name with
  | some c => .error (.clusterName c.name)
  | none => .ok ()

/-- The most replicas that a shard can have. -/
def shardBound (replicasCount : Nat) (s : ShardSpec) : Nat :=
  max s.replicas.length (s.replicasCount.elim replicasCount UInt32.toNat)

/-- The most replicas that a layout can have, of either kind. -/
def layoutBound (l : Layout) : Nat :=
  let replicasCount := l.replicasCount.elim 1 UInt32.toNat
  max (l.shardsCount.elim 1 UInt32.toNat * replicasCount)
    (l.shards.foldr (fun s n => shardBound replicasCount s + n) 0)

/-- The most replicas that a specification can have. -/
def deploymentBound (s : Spec) : Nat :=
  s.configuration.clusters.foldr (fun c n => layoutBound c.layout + n) 0

end Spec

end ShardManifest
