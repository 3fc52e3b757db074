import ShardManifest.Kubernetes.Shapes.Metadata

/-!
# Shapes of volumes and claims

The kinds of storage that a pod can mount, and the claims for storage that outlive it.
-/

namespace ShardManifest.Kubernetes.Shapes

/-- A key that is mounted as a file. -/
def keyToPath : Shape :=
  .record
    [ .required "key" .text,
      .optional "mode" (.integer 32),
      .required "path" .text ]

def objectFieldSelector : Shape :=
  .record
    [ .optional "apiVersion" .text,
      .required "fieldPath" .text ]

def resourceFieldSelector : Shape :=
  .record
    [ .optional "containerName" .text,
      .optional "divisor" .text,
      .required "resource" .text ]

/-- The storage that a claim asks for. -/
def volumeResourceRequirements : Shape :=
  .record
    [ .optional "limits" (.map .text),
      .optional "requests" (.map .text) ]

def persistentVolumeClaimSpec : Shape :=
  .record
    [ .optional "accessModes" (.list .text),
      .optional "dataSource" typedLocalObjectReference,
      .optional "dataSourceRef" typedObjectReference,
      .optional "resources" volumeResourceRequirements,
      .optional "selector" labelSelector,
      .optional "storageClassName" .text,
      .optional "volumeAttributesClassName" .text,
      .optional "volumeMode" .text,
      .optional "volumeName" .text ]

/-- A claim that is made for each pod. -/
def persistentVolumeClaimTemplate : Shape :=
  .record
    [ .optional "metadata" objectMeta,
      .required "spec" persistentVolumeClaimSpec ]

/-- A disk of Amazon's block store. -/
def awsElasticBlockStoreVolumeSource : Shape :=
  .record
    [ .optional "fsType" .text,
      .optional "partition" (.integer 32),
      .optional "readOnly" .bool,
      .required "volumeID" .text ]

def azureDiskVolumeSource : Shape :=
  .record
    [ .optional "cachingMode" .text,
      .required "diskName" .text,
      .required "diskURI" .text,
      .optional "fsType" .text,
      .optional "kind" .text,
      .optional "readOnly" .bool ]

def azureFileVolumeSource : Shape :=
  .record
    [ .optional "readOnly" .bool,
      .required "secretName" .text,
      .required "shareName" .text ]

/-- A volume of a storage driver. -/
def csiVolumeSource : Shape :=
  .record
    [ .required "driver" .text,
      .optional "fsType" .text,
      .optional "nodePublishSecretRef" localObjectReference,
      .optional "readOnly" .bool,
      .optional "volumeAttributes" (.map .text) ]

/-- A directory of a Ceph file system. -/
def cephFSVolumeSource : Shape :=
  .record
    [ .required "monitors" (.list .text),
      .optional "path" .text,
      .optional "readOnly" .bool,
      .optional "secretFile" .text,
      .optional "secretRef" localObjectReference,
      .optional "user" .text ]

def cinderVolumeSource : Shape :=
  .record
    [ .optional "fsType" .text,
      .optional "readOnly" .bool,
      .optional "secretRef" localObjectReference,
      .required "volumeID" .text ]

/-- Certificates of the cluster as files. -/
def clusterTrustBundleProjection : Shape :=
  .record
    [ .optional "labelSelector" labelSelector,
      .optional "name" .text,
      .optional "optional" .bool,
      .required "path" .text,
      .optional "signerName" .text ]

/-- Keys of a ConfigMap as files. -/
def configMapProjection : Shape :=
  .record
    [ .optional "items" (.list keyToPath),
      .required "name" .text,
      .optional "optional" .bool ]

/-- A ConfigMap as a directory, its name apart. -/
def configMapSourceFields : List Field :=
  [ .optional "defaultMode" (.integer 32),
    .optional "items" (.list keyToPath),
    .optional "optional" .bool ]

/-- A property of the pod as a file. -/
def downwardAPIVolumeFile : Shape :=
  .record
    [ .optional "fieldRef" objectFieldSelector,
      .optional "mode" (.integer 32),
      .required "path" .text,
      .optional "resourceFieldRef" resourceFieldSelector ]

/-- Properties of the pod as files. -/
def downwardAPIProjection : Shape :=
  .record
    [ .optional "items" (.list downwardAPIVolumeFile) ]

/-- Properties of the pod as a directory. -/
def downwardAPIVolumeSource : Shape :=
  .record
    [ .optional "defaultMode" (.integer 32),
      .optional "items" (.list downwardAPIVolumeFile) ]

/-- A directory that lives as long as the pod. -/
def emptyDirVolumeSource : Shape :=
  .record
    [ .optional "medium" .text,
      .optional "sizeLimit" .text ]

/-- A claim that lives as long as the pod. -/
def ephemeralVolumeSource : Shape :=
  .record
    [ .optional "volumeClaimTemplate" persistentVolumeClaimTemplate ]

def fcVolumeSource : Shape :=
  .record
    [ .optional "fsType" .text,
      .optional "lun" (.integer 32),
      .optional "readOnly" .bool,
      .optional "targetWWNs" (.list .text),
      .optional "wwids" (.list .text) ]

/-- A volume of a plug-in program. -/
def flexVolumeSource : Shape :=
  .record
    [ .required "driver" .text,
      .optional "fsType" .text,
      .optional "options" (.map .text),
      .optional "readOnly" .bool,
      .optional "secretRef" localObjectReference ]

def flockerVolumeSource : Shape :=
  .record
    [ .optional "datasetName" .text,
      .optional "datasetUUID" .text ]

/-- A disk of Google's compute engine. -/
def gcePersistentDiskVolumeSource : Shape :=
  .record
    [ .optional "fsType" .text,
      .optional "partition" (.integer 32),
      .required "pdName" .text,
      .optional "readOnly" .bool ]

def gitRepoVolumeSource : Shape :=
  .record
    [ .optional "directory" .text,
      .required "repository" .text,
      .optional "revision" .text ]

def glusterfsVolumeSource : Shape :=
  .record
    [ .required "endpoints" .text,
      .required "path" .text,
      .optional "readOnly" .bool ]

def hostPathVolumeSource : Shape :=
  .record
    [ .required "path" .text,
      .optional "type" .text ]

def iscsiVolumeSource : Shape :=
  .record
    [ .optional "chapAuthDiscovery" .bool,
      .optional "chapAuthSession" .bool,
      .optional "fsType" .text,
      .optional "initiatorName" .text,
      .required "iqn" .text,
      .optional "iscsiInterface" .text,
      .required "lun" (.integer 32),
      .optional "portals" (.list .text),
      .optional "readOnly" .bool,
      .optional "secretRef" localObjectReference,
      .required "targetPortal" .text ]

def imageVolumeSource : Shape :=
  .record
    [ .optional "pullPolicy" .text,
      .optional "reference" .text ]

/-- A directory of a network file system. -/
def nfsVolumeSource : Shape :=
  .record
    [ .required "path" .text,
      .optional "readOnly" .bool,
      .required "server" .text ]

def persistentVolumeClaimVolumeSource : Shape :=
  .record
    [ .required "claimName" .text,
      .optional "readOnly" .bool ]

def photonPersistentDiskVolumeSource : Shape :=
  .record
    [ .optional "fsType" .text,
      .required "pdID" .text ]

def portworxVolumeSource : Shape :=
  .record
    [ .optional "fsType" .text,
      .optional "readOnly" .bool,
      .required "volumeID" .text ]

/-- Keys of a secret as files. -/
def secretProjection : Shape :=
  .record
    [ .optional "items" (.list keyToPath),
      .required "name" .text,
      .optional "optional" .bool ]

/-- A token of the pod's account as a file. -/
def serviceAccountTokenProjection : Shape :=
  .record
    [ .optional "audience" .text,
      .optional "expirationSeconds" (.integer 64),
      .required "path" .text ]

/-- One source of a projected volume. -/
def volumeProjection : Shape :=
  .record
    [ .optional "clusterTrustBundle" clusterTrustBundleProjection,
      .optional "configMap" configMapProjection,
      .optional "downwardAPI" downwardAPIProjection,
      .optional "secret" secretProjection,
      .optional "serviceAccountToken" serviceAccountTokenProjection ]

def projectedVolumeSource : Shape :=
  .record
    [ .optional "defaultMode" (.integer 32),
      .optional "sources" (.list volumeProjection) ]

def quobyteVolumeSource : Shape :=
  .record
    [ .optional "group" .text,
      .optional "readOnly" .bool,
      .required "registry" .text,
      .optional "tenant" .text,
      .optional "user" .text,
      .required "volume" .text ]

def rbdVolumeSource : Shape :=
  .record
    [ .optional "fsType" .text,
      .required "image" .text,
      .optional "keyring" .text,
      .required "monitors" (.list .text),
      .optional "pool" .text,
      .optional "readOnly" .bool,
      .optional "secretRef" localObjectReference,
      .optional "user" .text ]

def scaleIOVolumeSource : Shape :=
  .record
    [ .optional "fsType" .text,
      .required "gateway" .text,
      .optional "protectionDomain" .text,
      .optional "readOnly" .bool,
      .required "secretRef" localObjectReference,
      .optional "sslEnabled" .bool,
      .optional "storageMode" .text,
      .optional "storagePool" .text,
      .required "system" .text,
      .optional "volumeName" .text ]

def secretVolumeSource : Shape :=
  .record
    [ .optional "defaultMode" (.integer 32),
      .optional "items" (.list keyToPath),
      .optional "optional" .bool,
      .optional "secretName" .text ]

def storageOSVolumeSource : Shape :=
  .record
    [ .optional "fsType" .text,
      .optional "readOnly" .bool,
      .optional "secretRef" localObjectReference,
      .optional "volumeName" .text,
      .optional "volumeNamespace" .text ]

def vsphereVirtualDiskVolumeSource : Shape :=
  .record
    [ .optional "fsType" .text,
      .optional "storagePolicyID" .text,
      .optional "storagePolicyName" .text,
      .required "volumePath" .text ]

/-- A volume of a pod, its name and a ConfigMap behind it apart. -/
def volumeFields : List Field :=
  [ .optional "awsElasticBlockStore" awsElasticBlockStoreVolumeSource,
    .optional "azureDisk" azureDiskVolumeSource,
    .optional "azureFile" azureFileVolumeSource,
    .optional "cephfs" cephFSVolumeSource,
    .optional "cinder" cinderVolumeSource,
    .optional "csi" csiVolumeSource,
    .optional "downwardAPI" downwardAPIVolumeSource,
    .optional "emptyDir" emptyDirVolumeSource,
    .optional "ephemeral" ephemeralVolumeSource,
    .optional "fc" fcVolumeSource,
    .optional "flexVolume" flexVolumeSource,
    .optional "flocker" flockerVolumeSource,
    .optional "gcePersistentDisk" gcePersistentDiskVolumeSource,
    .optional "gitRepo" gitRepoVolumeSource,
    .optional "glusterfs" glusterfsVolumeSource,
    .optional "hostPath" hostPathVolumeSource,
    .optional "image" imageVolumeSource,
    .optional "iscsi" iscsiVolumeSource,
    .optional "nfs" nfsVolumeSource,
    .optional "persistentVolumeClaim" persistentVolumeClaimVolumeSource,
    .optional "photonPersistentDisk" photonPersistentDiskVolumeSource,
    .optional "portworxVolume" portworxVolumeSource,
    .optional "projected" projectedVolumeSource,
    .optional "quobyte" quobyteVolumeSource,
    .optional "rbd" rbdVolumeSource,
    .optional "scaleIO" scaleIOVolumeSource,
    .optional "secret" secretVolumeSource,
    .optional "storageos" storageOSVolumeSource,
    .optional "vsphereVolume" vsphereVirtualDiskVolumeSource ]

end ShardManifest.Kubernetes.Shapes
