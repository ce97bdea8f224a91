import ChangeRelay.Catalog.Meta

/-!
# Services

Services and the load balancers in front of them.
-/

namespace ChangeRelay.Catalog

open Schema

/-- The `ClientIPConfig` record. -/
def clientIPConfig : Shape :=
  .ofRows [
    optional "timeoutSeconds" .int32]

/-- The `PortStatus` record. -/
def portStatus : Shape :=
  .ofRows [
    optional "error" .text,
    defaulted "port" .int32,
    defaulted "protocol" .text]

/-- The `LoadBalancerIngress` record. -/
def loadBalancerIngress : Shape :=
  .ofRows [
    optional "hostname" .text,
    optional "ip" .text,
    optional "ipMode" .text,
    optional "ports" (.list portStatus)]

/-- The `LoadBalancerStatus` record. -/
def loadBalancerStatus : Shape :=
  .ofRows [
    optional "ingress" (.list loadBalancerIngress)]

/-- The `ServicePort` record. -/
def servicePort : Shape :=
  .ofRows [
    optional "appProtocol" .text,
    optional "name" .text,
    optional "nodePort" .int32,
    defaulted "port" .int32,
    optional "protocol" .text,
    optional "targetPort" .intOrText]

/-- The `SessionAffinityConfig` record. -/
def sessionAffinityConfig : Shape :=
  .ofRows [
    optional "clientIP" clientIPConfig]

/-- The `ServiceSpec` record. -/
def serviceSpec : Shape :=
  .ofRows [
    optional "allocateLoadBalancerNodePorts" .flag,
    optional "clusterIP" .text,
    optional "clusterIPs" (.list .text),
    optional "externalIPs" (.list .text),
    optional "externalName" .text,
    optional "externalTrafficPolicy" .text,
    optional "healthCheckNodePort" .int32,
    optional "internalTrafficPolicy" .text,
    optional "ipFamilies" (.list .text),
    optional "ipFamilyPolicy" .text,
    optional "loadBalancerClass" .text,
    optional "loadBalancerIP" .text,
    optional "loadBalancerSourceRanges" (.list .text),
    optional "ports" (.list servicePort),
    optional "publishNotReadyAddresses" .flag,
    optional "selector" (.map .text),
    optional "sessionAffinity" .text,
    optional "sessionAffinityConfig" sessionAffinityConfig,
    optional "trafficDistribution" .text,
    optional "type" .text]

/-- The `ServiceStatus` record. -/
def serviceStatus : Shape :=
  .ofRows [
    optional "conditions" (.list condition),
    optional "loadBalancer" loadBalancerStatus]

/-- The `Service` object of `v1`. -/
def service : Shape :=
  .ofRows [
    constant "apiVersion" "v1",
    constant "kind" "Service",
    defaulted "metadata" objectMeta,
    optional "spec" serviceSpec,
    optional "status" serviceStatus]

end ChangeRelay.Catalog
