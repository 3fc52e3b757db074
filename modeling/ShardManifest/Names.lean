/-!
# Names

Every name that a compiled object carries follows a fixed pattern from the name of the
installation, the identifier of a deployment, a namespace or a filename. The installation's name is
free text; the identifier of a deployment is made by the compiler.

## Main definitions

- `Names.statefulSet`, `Names.replicaService`, `Names.podHost`: what belongs to one replica
- `Names.installationService`, `Names.commonConfigMap`: what belongs to an installation
- `Names.macrosConfigMap`: one deployment of an installation
- `File`: the files of the configuration directory
- `NamedPort`: the ports that every replica listens on
-/

namespace ShardManifest

namespace Names

/-- The Service in front of all replicas of an installation. -/
def installationService (installation : String) : String := "chi-" ++ installation

def replicaService (deployment : String) : String := "chi-service-" ++ deployment

def statefulSet (deployment : String) : String := "chi-" ++ deployment

/-- The host name of a replica's pod. -/
def podHost (deployment : String) : String := "chi-" ++ deployment ++ "-0"

/-- The ConfigMap that all replicas of an installation share. -/
def commonConfigMap (installation : String) : String := "chi-" ++ installation ++ "-common-configd"

def macrosConfigMap (installation deployment : String) : String :=
  "chi-" ++ installation ++ "-deploy-confd-" ++ deployment

/-- What follows a Service's name in its fully qualified name. -/
def namespaceDomain (inNamespace : String) : String := "." ++ inNamespace ++ ".svc.cluster.local"

/-- The fully qualified name of a replica's Service. -/
def qualifiedHost (inNamespace deployment : String) : String :=
  replicaService deployment ++ namespaceDomain inNamespace

/-- The directory of the configuration files. -/
def configDirectory : String := "/etc/clickhouse-server/config.d/"

/-- Where a file of the configuration directory is mounted. -/
def configPath (filename : String) : String := configDirectory ++ filename

/-- Where the queue of distributed statements of an installation lives. -/
def statementQueue (installation : String) : String :=
  "/clickhouse/" ++ installation ++ "/task_queue/ddl"

/-- The directory of a replica's data. -/
def dataDirectory : String := "/var/lib/clickhouse"

/-- The volume that backs the data directory unless a claim names another. -/
def dataVolume : String := "clickhouse-data"

/-- The namespace of an installation that names none. -/
def defaultNamespace : String := "default"

/-- The image of a container that no template describes. -/
def defaultImage : String := "yandex/clickhouse-server:latest"

/-- The cluster address of a Service that only gives its pod a name. -/
def headlessAddress : String := "None"

/-- The label that marks compiled objects, and its value. -/
def ownerLabel : String × String := ("clickhouse.altinity.com/chop", "chop")

/-- The label that holds the installation of an object. -/
def installationLabel : String := "clickhouse.altinity.com/chi"

/-- The label that holds the StatefulSet of a pod. -/
def appLabel : String := "clickhouse.altinity.com/app"

end Names

namespace File

/-- The clusters with their shards and replicas. -/
def remoteServers : String := "remote_servers.xml"

def zookeeper : String := "zookeeper.xml"

def users : String := "users.xml"

def profiles : String := "profiles.xml"

def quotas : String := "quotas.xml"

def settings : String := "settings.xml"

def macros : String := "macros.xml"

/-- All files, the shared ones first. -/
def all : List String := [remoteServers, zookeeper, users, profiles, quotas, settings, macros]

end File

structure NamedPort where
  /-- What Services and containers call the port. -/
  name : String
  number : UInt16
deriving DecidableEq, Repr

namespace NamedPort

/-- Clients of the native protocol, other replicas among them. -/
def client : NamedPort := ⟨"rpc", 9000⟩

def interserver : NamedPort := ⟨"interserver", 9009⟩

def rest : NamedPort := ⟨"rest", 8123⟩

def all : List NamedPort := [client, interserver, rest]

end NamedPort

/-- The port of a coordination node that names none. -/
def defaultZookeeperPort : UInt16 := 2181

end ShardManifest
