import ShardManifest.Kubernetes.Shapes.Volume

/-!
# Shapes of containers

What a container may say about its environment, its life and its rights.
-/

namespace ShardManifest.Kubernetes.Shapes

/-- All keys of a ConfigMap as variables. -/
def configMapEnvSource : Shape :=
  .record
    [ .required "name" .text,
      .optional "optional" .bool ]

/-- All keys of a secret as variables. -/
def secretEnvSource : Shape :=
  .record
    [ .required "name" .text,
      .optional "optional" .bool ]

def envFromSource : Shape :=
  .record
    [ .optional "configMapRef" configMapEnvSource,
      .optional "prefix" .text,
      .optional "secretRef" secretEnvSource ]

def configMapKeySelector : Shape :=
  .record
    [ .required "key" .text,
      .required "name" .text,
      .optional "optional" .bool ]

def secretKeySelector : Shape :=
  .record
    [ .required "key" .text,
      .required "name" .text,
      .optional "optional" .bool ]

/-- Where the value of a variable comes from. -/
def envVarSource : Shape :=
  .record
    [ .optional "configMapKeyRef" configMapKeySelector,
      .optional "fieldRef" objectFieldSelector,
      .optional "resourceFieldRef" resourceFieldSelector,
      .optional "secretKeyRef" secretKeySelector ]

def envVar : Shape :=
  .record
    [ .required "name" .text,
      .optional "value" .text,
      .optional "valueFrom" envVarSource ]

/-- A command to run in the container. -/
def execAction : Shape :=
  .record
    [ .optional "command" (.list .text) ]

def httpHeader : Shape :=
  .record
    [ .required "name" .text,
      .required "value" .text ]

def httpGetAction : Shape :=
  .record
    [ .optional "host" .text,
      .optional "httpHeaders" (.list httpHeader),
      .optional "path" .text,
      .required "port" .integerOrText,
      .optional "scheme" .text ]

def sleepAction : Shape :=
  .record
    [ .required "seconds" (.integer 64) ]

def tcpSocketAction : Shape :=
  .record
    [ .optional "host" .text,
      .required "port" .integerOrText ]

def grpcAction : Shape :=
  .record
    [ .required "port" (.integer 32),
      .optional "service" .text ]

/-- What to do at a turn of a container's life. -/
def lifecycleHandler : Shape :=
  .record
    [ .optional "exec" execAction,
      .optional "httpGet" httpGetAction,
      .optional "sleep" sleepAction,
      .optional "tcpSocket" tcpSocketAction ]

/-- The turns of a container's life. -/
def lifecycle : Shape :=
  .record
    [ .optional "postStart" lifecycleHandler,
      .optional "preStop" lifecycleHandler,
      .optional "stopSignal" .text ]

/-- How the state of a container is found out. -/
def probe : Shape :=
  .record
    [ .optional "exec" execAction,
      .optional "failureThreshold" (.integer 32),
      .optional "grpc" grpcAction,
      .optional "httpGet" httpGetAction,
      .optional "initialDelaySeconds" (.integer 32),
      .optional "periodSeconds" (.integer 32),
      .optional "successThreshold" (.integer 32),
      .optional "tcpSocket" tcpSocketAction,
      .optional "terminationGracePeriodSeconds" (.integer 64),
      .optional "timeoutSeconds" (.integer 32) ]

def containerResizePolicy : Shape :=
  .record
    [ .required "resourceName" .text,
      .required "restartPolicy" .text ]

/-- A claim of the pod that a container uses. -/
def resourceClaim : Shape :=
  .record
    [ .required "name" .text,
      .optional "request" .text ]

/-- The resources that a container asks for. -/
def resourceRequirements : Shape :=
  .record
    [ .optional "claims" (.list resourceClaim),
      .optional "limits" (.map .text),
      .optional "requests" (.map .text) ]

def appArmorProfile : Shape :=
  .record
    [ .optional "localhostProfile" .text,
      .required "type" .text ]

def capabilities : Shape :=
  .record
    [ .optional "add" (.list .text),
      .optional "drop" (.list .text) ]

def linuxOptions : Shape :=
  .record
    [ .optional "level" .text,
      .optional "role" .text,
      .optional "type" .text,
      .optional "user" .text ]

def seccompProfile : Shape :=
  .record
    [ .optional "localhostProfile" .text,
      .required "type" .text ]

def windowsSecurityContextOptions : Shape :=
  .record
    [ .optional "gmsaCredentialSpec" .text,
      .optional "gmsaCredentialSpecName" .text,
      .optional "hostProcess" .bool,
      .optional "runAsUserName" .text ]

/-- The security settings of a container. -/
def securityContext : Shape :=
  .record
    [ .optional "allowPrivilegeEscalation" .bool,
      .optional "appArmorProfile" appArmorProfile,
      .optional "capabilities" capabilities,
      .optional "privileged" .bool,
      .optional "procMount" .text,
      .optional "readOnlyRootFilesystem" .bool,
      .optional "runAsGroup" (.integer 64),
      .optional "runAsNonRoot" .bool,
      .optional "runAsUser" (.integer 64),
      .optional "seLinuxOptions" linuxOptions,
      .optional "seccompProfile" seccompProfile,
      .optional "windowsOptions" windowsSecurityContextOptions ]

/-- A raw block device in a container. -/
def volumeDevice : Shape :=
  .record
    [ .required "devicePath" .text,
      .required "name" .text ]

/-- A container, but for its name, its image, its ports and its mounts. -/
def containerFields : List Field :=
  [ .optional "args" (.list .text),
    .optional "command" (.list .text),
    .optional "env" (.list envVar),
    .optional "envFrom" (.list envFromSource),
    .optional "imagePullPolicy" .text,
    .optional "lifecycle" lifecycle,
    .optional "livenessProbe" probe,
    .optional "readinessProbe" probe,
    .optional "resizePolicy" (.list containerResizePolicy),
    .optional "resources" resourceRequirements,
    .optional "restartPolicy" .text,
    .optional "securityContext" securityContext,
    .optional "startupProbe" probe,
    .optional "stdin" .bool,
    .optional "stdinOnce" .bool,
    .optional "terminationMessagePath" .text,
    .optional "terminationMessagePolicy" .text,
    .optional "tty" .bool,
    .optional "volumeDevices" (.list volumeDevice),
    .optional "workingDir" .text ]

end ShardManifest.Kubernetes.Shapes
