import ChangeRelay.Catalog.Meta
import ChangeRelay.Catalog.Security

/-!
# Containers

Containers as they are asked for, and the statuses that are reported of them.
-/

namespace ChangeRelay.Catalog

open Schema

/-- The `ConfigMapEnvSource` record. -/
def configMapEnvSource : Shape :=
  .ofRows [
    defaulted "name" .text,
    optional "optional" .flag]

/-- The `ConfigMapKeySelector` record. -/
def configMapKeySelector : Shape :=
  .ofRows [
    defaulted "key" .text,
    defaulted "name" .text,
    optional "optional" .flag]

/-- The `SecretKeySelector` record. -/
def secretKeySelector : Shape :=
  .ofRows [
    defaulted "key" .text,
    defaulted "name" .text,
    optional "optional" .flag]

/-- The `EnvVarSource` record. -/
def envVarSource : Shape :=
  .ofRows [
    optional "configMapKeyRef" configMapKeySelector,
    optional "fieldRef" objectFieldSelector,
    optional "resourceFieldRef" resourceFieldSelector,
    optional "secretKeyRef" secretKeySelector]

/-- The `EnvVar` record. -/
def envVar : Shape :=
  .ofRows [
    defaulted "name" .text,
    optional "value" .text,
    optional "valueFrom" envVarSource]

/-- The `SecretEnvSource` record. -/
def secretEnvSource : Shape :=
  .ofRows [
    defaulted "name" .text,
    optional "optional" .flag]

/-- The `EnvFromSource` record. -/
def envFromSource : Shape :=
  .ofRows [
    optional "configMapRef" configMapEnvSource,
    optional "prefix" .text,
    optional "secretRef" secretEnvSource]

/-- The `ExecAction` record. -/
def execAction : Shape :=
  .ofRows [
    optional "command" (.list .text)]

/-- The `HTTPHeader` record. -/
def httpHeader : Shape :=
  .ofRows [
    defaulted "name" .text,
    defaulted "value" .text]

/-- The `HTTPGetAction` record. -/
def httpGetAction : Shape :=
  .ofRows [
    optional "host" .text,
    optional "httpHeaders" (.list httpHeader),
    optional "path" .text,
    defaulted "port" .intOrText,
    optional "scheme" .text]

/-- The `SleepAction` record. -/
def sleepAction : Shape :=
  .ofRows [
    defaulted "seconds" .int64]

/-- The `TCPSocketAction` record. -/
def tcpSocketAction : Shape :=
  .ofRows [
    optional "host" .text,
    defaulted "port" .intOrText]

/-- The `LifecycleHandler` record. -/
def lifecycleHandler : Shape :=
  .ofRows [
    optional "exec" execAction,
    optional "httpGet" httpGetAction,
    optional "sleep" sleepAction,
    optional "tcpSocket" tcpSocketAction]

/-- The `Lifecycle` record. -/
def lifecycle : Shape :=
  .ofRows [
    optional "postStart" lifecycleHandler,
    optional "preStop" lifecycleHandler]

/-- The `GRPCAction` record. -/
def grpcAction : Shape :=
  .ofRows [
    defaulted "port" .int32,
    optional "service" .text]

/-- The `Probe` record. -/
def probe : Shape :=
  .ofRows [
    optional "exec" execAction,
    optional "failureThreshold" .int32,
    optional "grpc" grpcAction,
    optional "httpGet" httpGetAction,
    optional "initialDelaySeconds" .int32,
    optional "periodSeconds" .int32,
    optional "successThreshold" .int32,
    optional "tcpSocket" tcpSocketAction,
    optional "terminationGracePeriodSeconds" .int64,
    optional "timeoutSeconds" .int32]

/-- The `ContainerPort` record. -/
def containerPort : Shape :=
  .ofRows [
    defaulted "containerPort" .int32,
    optional "hostIP" .text,
    optional "hostPort" .int32,
    optional "name" .text,
    optional "protocol" .text]

/-- The `ContainerResizePolicy` record. -/
def containerResizePolicy : Shape :=
  .ofRows [
    defaulted "resourceName" .text,
    defaulted "restartPolicy" .text]

/-- The `ResourceClaim` record. -/
def resourceClaim : Shape :=
  .ofRows [
    defaulted "name" .text,
    optional "request" .text]

/-- The `ResourceRequirements` record. -/
def resourceRequirements : Shape :=
  .ofRows [
    optional "claims" (.list resourceClaim),
    optional "limits" (.map .text),
    optional "requests" (.map .text)]

/-- The `VolumeDevice` record. -/
def volumeDevice : Shape :=
  .ofRows [
    defaulted "devicePath" .text,
    defaulted "name" .text]

/-- The `VolumeMount` record. -/
def volumeMount : Shape :=
  .ofRows [
    defaulted "mountPath" .text,
    optional "mountPropagation" .text,
    defaulted "name" .text,
    optional "readOnly" .flag,
    optional "recursiveReadOnly" .text,
    optional "subPath" .text,
    optional "subPathExpr" .text]

/-- The `Container` record. -/
def container : Shape :=
  .ofRows [
    optional "args" (.list .text),
    optional "command" (.list .text),
    optional "env" (.list envVar),
    optional "envFrom" (.list envFromSource),
    optional "image" .text,
    optional "imagePullPolicy" .text,
    optional "lifecycle" lifecycle,
    optional "livenessProbe" probe,
    defaulted "name" .text,
    optional "ports" (.list containerPort),
    optional "readinessProbe" probe,
    optional "resizePolicy" (.list containerResizePolicy),
    optional "resources" resourceRequirements,
    optional "restartPolicy" .text,
    optional "securityContext" securityContext,
    optional "startupProbe" probe,
    optional "stdin" .flag,
    optional "stdinOnce" .flag,
    optional "terminationMessagePath" .text,
    optional "terminationMessagePolicy" .text,
    optional "tty" .flag,
    optional "volumeDevices" (.list volumeDevice),
    optional "volumeMounts" (.list volumeMount),
    optional "workingDir" .text]

/-- The `ContainerStateRunning` record. -/
def containerStateRunning : Shape :=
  .ofRows [
    optional "startedAt" (.time .seconds)]

/-- The `ContainerStateTerminated` record. -/
def containerStateTerminated : Shape :=
  .ofRows [
    optional "containerID" .text,
    defaulted "exitCode" .int32,
    optional "finishedAt" (.time .seconds),
    optional "message" .text,
    optional "reason" .text,
    optional "signal" .int32,
    optional "startedAt" (.time .seconds)]

/-- The `ContainerStateWaiting` record. -/
def containerStateWaiting : Shape :=
  .ofRows [
    optional "message" .text,
    optional "reason" .text]

/-- The `ContainerState` record. -/
def containerState : Shape :=
  .ofRows [
    optional "running" containerStateRunning,
    optional "terminated" containerStateTerminated,
    optional "waiting" containerStateWaiting]

/-- The `ResourceHealth` record. -/
def resourceHealth : Shape :=
  .ofRows [
    optional "health" .text,
    defaulted "resourceID" .text]

/-- The `ResourceStatus` record. -/
def resourceStatus : Shape :=
  .ofRows [
    defaulted "name" .text,
    optional "resources" (.list resourceHealth)]

/-- The `LinuxContainerUser` record. -/
def linuxContainerUser : Shape :=
  .ofRows [
    defaulted "gid" .int64,
    optional "supplementalGroups" (.list .int64),
    defaulted "uid" .int64]

/-- The `ContainerUser` record. -/
def containerUser : Shape :=
  .ofRows [
    optional "linux" linuxContainerUser]

/-- The `VolumeMountStatus` record. -/
def volumeMountStatus : Shape :=
  .ofRows [
    defaulted "mountPath" .text,
    defaulted "name" .text,
    optional "readOnly" .flag,
    optional "recursiveReadOnly" .text]

/-- The `ContainerStatus` record. -/
def containerStatus : Shape :=
  .ofRows [
    optional "allocatedResources" (.map .text),
    optional "allocatedResourcesStatus" (.list resourceStatus),
    optional "containerID" .text,
    defaulted "image" .text,
    defaulted "imageID" .text,
    optional "lastState" containerState,
    defaulted "name" .text,
    defaulted "ready" .flag,
    optional "resources" resourceRequirements,
    defaulted "restartCount" .int32,
    optional "started" .flag,
    optional "state" containerState,
    optional "user" containerUser,
    optional "volumeMounts" (.list volumeMountStatus)]

/-- The `EphemeralContainer` record. -/
def ephemeralContainer : Shape :=
  .ofRows [
    optional "args" (.list .text),
    optional "command" (.list .text),
    optional "env" (.list envVar),
    optional "envFrom" (.list envFromSource),
    optional "image" .text,
    optional "imagePullPolicy" .text,
    optional "lifecycle" lifecycle,
    optional "livenessProbe" probe,
    defaulted "name" .text,
    optional "ports" (.list containerPort),
    optional "readinessProbe" probe,
    optional "resizePolicy" (.list containerResizePolicy),
    optional "resources" resourceRequirements,
    optional "restartPolicy" .text,
    optional "securityContext" securityContext,
    optional "startupProbe" probe,
    optional "stdin" .flag,
    optional "stdinOnce" .flag,
    optional "targetContainerName" .text,
    optional "terminationMessagePath" .text,
    optional "terminationMessagePolicy" .text,
    optional "tty" .flag,
    optional "volumeDevices" (.list volumeDevice),
    optional "volumeMounts" (.list volumeMount),
    optional "workingDir" .text]

end ChangeRelay.Catalog
