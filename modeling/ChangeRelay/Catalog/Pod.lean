import ChangeRelay.Catalog.Container
import ChangeRelay.Catalog.Meta
import ChangeRelay.Catalog.Scheduling
import ChangeRelay.Catalog.Security
import ChangeRelay.Catalog.Volume

/-!
# Pods

Pods, and the template that other objects make pods from.
-/

namespace ChangeRelay.Catalog

open Schema

/-- The `HostAlias` record. -/
def hostAlias : Shape :=
  .ofRows [
    optional "hostnames" (.list .text),
    defaulted "ip" .text]

/-- The `HostIP` record. -/
def hostIP : Shape :=
  .ofRows [
    defaulted "ip" .text]

/-- The `PodDNSConfigOption` record. -/
def podDNSConfigOption : Shape :=
  .ofRows [
    optional "name" .text,
    optional "value" .text]

/-- The `PodDNSConfig` record. -/
def podDNSConfig : Shape :=
  .ofRows [
    optional "nameservers" (.list .text),
    optional "options" (.list podDNSConfigOption),
    optional "searches" (.list .text)]

/-- The `PodOS` record. -/
def podOS : Shape :=
  .ofRows [
    defaulted "name" .text]

/-- The `PodResourceClaim` record. -/
def podResourceClaim : Shape :=
  .ofRows [
    defaulted "name" .text,
    optional "resourceClaimName" .text,
    optional "resourceClaimTemplateName" .text]

/-- The `Sysctl` record. -/
def sysctl : Shape :=
  .ofRows [
    defaulted "name" .text,
    defaulted "value" .text]

/-- The `PodSecurityContext` record. -/
def podSecurityContext : Shape :=
  .ofRows [
    optional "appArmorProfile" appArmorProfile,
    optional "fsGroup" .int64,
    optional "fsGroupChangePolicy" .text,
    optional "runAsGroup" .int64,
    optional "runAsNonRoot" .flag,
    optional "runAsUser" .int64,
    optional "seLinuxChangePolicy" .text,
    optional "seLinuxOptions" seLinuxOptions,
    optional "seccompProfile" seccompProfile,
    optional "supplementalGroups" (.list .int64),
    optional "supplementalGroupsPolicy" .text,
    optional "sysctls" (.list sysctl),
    optional "windowsOptions" windowsSecurityContextOptions]

/-- The `PodSpec` record. -/
def podSpec : Shape :=
  .ofRows [
    optional "activeDeadlineSeconds" .int64,
    optional "affinity" affinity,
    optional "automountServiceAccountToken" .flag,
    defaulted "containers" (.list container),
    optional "dnsConfig" podDNSConfig,
    optional "dnsPolicy" .text,
    optional "enableServiceLinks" .flag,
    optional "ephemeralContainers" (.list ephemeralContainer),
    optional "hostAliases" (.list hostAlias),
    optional "hostIPC" .flag,
    optional "hostNetwork" .flag,
    optional "hostPID" .flag,
    optional "hostUsers" .flag,
    optional "hostname" .text,
    optional "imagePullSecrets" (.list localObjectReference),
    optional "initContainers" (.list container),
    optional "nodeName" .text,
    optional "nodeSelector" (.map .text),
    optional "os" podOS,
    optional "overhead" (.map .text),
    optional "preemptionPolicy" .text,
    optional "priority" .int32,
    optional "priorityClassName" .text,
    optional "readinessGates" (.list podReadinessGate),
    optional "resourceClaims" (.list podResourceClaim),
    optional "resources" resourceRequirements,
    optional "restartPolicy" .text,
    optional "runtimeClassName" .text,
    optional "schedulerName" .text,
    optional "schedulingGates" (.list podSchedulingGate),
    optional "securityContext" podSecurityContext,
    optional "serviceAccount" .text,
    optional "serviceAccountName" .text,
    optional "setHostnameAsFQDN" .flag,
    optional "shareProcessNamespace" .flag,
    optional "subdomain" .text,
    optional "terminationGracePeriodSeconds" .int64,
    optional "tolerations" (.list toleration),
    optional "topologySpreadConstraints" (.list topologySpreadConstraint),
    optional "volumes" (.list volume)]

/-- The `PodCondition` record. -/
def podCondition : Shape :=
  .ofRows [
    optional "lastProbeTime" (.time .seconds),
    optional "lastTransitionTime" (.time .seconds),
    optional "message" .text,
    optional "reason" .text,
    defaulted "status" .text,
    defaulted "type" .text]

/-- The `PodIP` record. -/
def podIP : Shape :=
  .ofRows [
    defaulted "ip" .text]

/-- The `PodResourceClaimStatus` record. -/
def podResourceClaimStatus : Shape :=
  .ofRows [
    defaulted "name" .text,
    optional "resourceClaimName" .text]

/-- The `PodStatus` record. -/
def podStatus : Shape :=
  .ofRows [
    optional "conditions" (.list podCondition),
    optional "containerStatuses" (.list containerStatus),
    optional "ephemeralContainerStatuses" (.list containerStatus),
    optional "hostIP" .text,
    optional "hostIPs" (.list hostIP),
    optional "initContainerStatuses" (.list containerStatus),
    optional "message" .text,
    optional "nominatedNodeName" .text,
    optional "phase" .text,
    optional "podIP" .text,
    optional "podIPs" (.list podIP),
    optional "qosClass" .text,
    optional "reason" .text,
    optional "resize" .text,
    optional "resourceClaimStatuses" (.list podResourceClaimStatus),
    optional "startTime" (.time .seconds)]

/-- The `Pod` object of `v1`. -/
def pod : Shape :=
  .ofRows [
    constant "apiVersion" "v1",
    constant "kind" "Pod",
    defaulted "metadata" objectMeta,
    optional "spec" podSpec,
    optional "status" podStatus]

/-- The `PodTemplateSpec` record. -/
def podTemplateSpec : Shape :=
  .ofRows [
    optional "metadata" objectMeta,
    optional "spec" podSpec]

end ChangeRelay.Catalog
