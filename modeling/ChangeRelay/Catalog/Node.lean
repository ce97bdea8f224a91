import ChangeRelay.Catalog.Meta

/-!
# Nodes

Nodes of the cluster.
-/

namespace ChangeRelay.Catalog

open Schema

/-- The `AttachedVolume` record. -/
def attachedVolume : Shape :=
  .ofRows [
    defaulted "devicePath" .text,
    defaulted "name" .text]

/-- The `ConfigMapNodeConfigSource` record. -/
def configMapNodeConfigSource : Shape :=
  .ofRows [
    defaulted "kubeletConfigKey" .text,
    defaulted "name" .text,
    defaulted "namespace" .text,
    optional "resourceVersion" .text,
    optional "uid" .text]

/-- The `ContainerImage` record. -/
def containerImage : Shape :=
  .ofRows [
    optional "names" (.list .text),
    optional "sizeBytes" .int64]

/-- The `DaemonEndpoint` record. -/
def daemonEndpoint : Shape :=
  .ofRows [
    defaulted "Port" .int32]

/-- The `NodeConfigSource` record. -/
def nodeConfigSource : Shape :=
  .ofRows [
    optional "configMap" configMapNodeConfigSource]

/-- The `Taint` record. -/
def taint : Shape :=
  .ofRows [
    defaulted "effect" .text,
    defaulted "key" .text,
    optional "timeAdded" (.time .seconds),
    optional "value" .text]

/-- The `NodeSpec` record. -/
def nodeSpec : Shape :=
  .ofRows [
    optional "configSource" nodeConfigSource,
    optional "externalID" .text,
    optional "podCIDR" .text,
    optional "podCIDRs" (.list .text),
    optional "providerID" .text,
    optional "taints" (.list taint),
    optional "unschedulable" .flag]

/-- The `NodeAddress` record. -/
def nodeAddress : Shape :=
  .ofRows [
    defaulted "address" .text,
    defaulted "type" .text]

/-- The `NodeCondition` record. -/
def nodeCondition : Shape :=
  .ofRows [
    optional "lastHeartbeatTime" (.time .seconds),
    optional "lastTransitionTime" (.time .seconds),
    optional "message" .text,
    optional "reason" .text,
    defaulted "status" .text,
    defaulted "type" .text]

/-- The `NodeConfigStatus` record. -/
def nodeConfigStatus : Shape :=
  .ofRows [
    optional "active" nodeConfigSource,
    optional "assigned" nodeConfigSource,
    optional "error" .text,
    optional "lastKnownGood" nodeConfigSource]

/-- The `NodeDaemonEndpoints` record. -/
def nodeDaemonEndpoints : Shape :=
  .ofRows [
    optional "kubeletEndpoint" daemonEndpoint]

/-- The `NodeFeatures` record. -/
def nodeFeatures : Shape :=
  .ofRows [
    optional "supplementalGroupsPolicy" .flag]

/-- The `NodeSystemInfo` record. -/
def nodeSystemInfo : Shape :=
  .ofRows [
    defaulted "architecture" .text,
    defaulted "bootID" .text,
    defaulted "containerRuntimeVersion" .text,
    defaulted "kernelVersion" .text,
    defaulted "kubeProxyVersion" .text,
    defaulted "kubeletVersion" .text,
    defaulted "machineID" .text,
    defaulted "operatingSystem" .text,
    defaulted "osImage" .text,
    defaulted "systemUUID" .text]

/-- The `NodeRuntimeHandlerFeatures` record. -/
def nodeRuntimeHandlerFeatures : Shape :=
  .ofRows [
    optional "recursiveReadOnlyMounts" .flag,
    optional "userNamespaces" .flag]

/-- The `NodeRuntimeHandler` record. -/
def nodeRuntimeHandler : Shape :=
  .ofRows [
    optional "features" nodeRuntimeHandlerFeatures,
    optional "name" .text]

/-- The `NodeStatus` record. -/
def nodeStatus : Shape :=
  .ofRows [
    optional "addresses" (.list nodeAddress),
    optional "allocatable" (.map .text),
    optional "capacity" (.map .text),
    optional "conditions" (.list nodeCondition),
    optional "config" nodeConfigStatus,
    optional "daemonEndpoints" nodeDaemonEndpoints,
    optional "features" nodeFeatures,
    optional "images" (.list containerImage),
    optional "nodeInfo" nodeSystemInfo,
    optional "phase" .text,
    optional "runtimeHandlers" (.list nodeRuntimeHandler),
    optional "volumesAttached" (.list attachedVolume),
    optional "volumesInUse" (.list .text)]

/-- The `Node` object of `v1`. -/
def node : Shape :=
  .ofRows [
    constant "apiVersion" "v1",
    constant "kind" "Node",
    defaulted "metadata" objectMeta,
    optional "spec" nodeSpec,
    optional "status" nodeStatus]

end ChangeRelay.Catalog
