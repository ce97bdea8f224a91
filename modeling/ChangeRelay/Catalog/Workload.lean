import ChangeRelay.Catalog.Claim
import ChangeRelay.Catalog.Meta
import ChangeRelay.Catalog.Pod

/-!
# Deployments, daemon sets and stateful sets

The objects of the apps API that keep pods running.
-/

namespace ChangeRelay.Catalog

open Schema

/-- The `RollingUpdateDaemonSet` record. -/
def rollingUpdateDaemonSet : Shape :=
  .ofRows [
    optional "maxSurge" .intOrText,
    optional "maxUnavailable" .intOrText]

/-- The `DaemonSetUpdateStrategy` record. -/
def daemonSetUpdateStrategy : Shape :=
  .ofRows [
    optional "rollingUpdate" rollingUpdateDaemonSet,
    optional "type" .text]

/-- The `DaemonSetSpec` record. -/
def daemonSetSpec : Shape :=
  .ofRows [
    optional "minReadySeconds" .int32,
    optional "revisionHistoryLimit" .int32,
    defaulted "selector" labelSelector,
    defaulted "template" podTemplateSpec,
    optional "updateStrategy" daemonSetUpdateStrategy]

/-- The `DaemonSetCondition` record. -/
def daemonSetCondition : Shape :=
  .ofRows [
    optional "lastTransitionTime" (.time .seconds),
    optional "message" .text,
    optional "reason" .text,
    defaulted "status" .text,
    defaulted "type" .text]

/-- The `DaemonSetStatus` record. -/
def daemonSetStatus : Shape :=
  .ofRows [
    optional "collisionCount" .int32,
    optional "conditions" (.list daemonSetCondition),
    defaulted "currentNumberScheduled" .int32,
    defaulted "desiredNumberScheduled" .int32,
    optional "numberAvailable" .int32,
    defaulted "numberMisscheduled" .int32,
    defaulted "numberReady" .int32,
    optional "numberUnavailable" .int32,
    optional "observedGeneration" .int64,
    optional "updatedNumberScheduled" .int32]

/-- The `DaemonSet` object of `apps/v1`. -/
def daemonSet : Shape :=
  .ofRows [
    constant "apiVersion" "apps/v1",
    constant "kind" "DaemonSet",
    defaulted "metadata" objectMeta,
    optional "spec" daemonSetSpec,
    optional "status" daemonSetStatus]

/-- The `RollingUpdateDeployment` record. -/
def rollingUpdateDeployment : Shape :=
  .ofRows [
    optional "maxSurge" .intOrText,
    optional "maxUnavailable" .intOrText]

/-- The `DeploymentStrategy` record. -/
def deploymentStrategy : Shape :=
  .ofRows [
    optional "rollingUpdate" rollingUpdateDeployment,
    optional "type" .text]

/-- The `DeploymentSpec` record. -/
def deploymentSpec : Shape :=
  .ofRows [
    optional "minReadySeconds" .int32,
    optional "paused" .flag,
    optional "progressDeadlineSeconds" .int32,
    optional "replicas" .int32,
    optional "revisionHistoryLimit" .int32,
    defaulted "selector" labelSelector,
    optional "strategy" deploymentStrategy,
    defaulted "template" podTemplateSpec]

/-- The `DeploymentCondition` record. -/
def deploymentCondition : Shape :=
  .ofRows [
    optional "lastTransitionTime" (.time .seconds),
    optional "lastUpdateTime" (.time .seconds),
    optional "message" .text,
    optional "reason" .text,
    defaulted "status" .text,
    defaulted "type" .text]

/-- The `DeploymentStatus` record. -/
def deploymentStatus : Shape :=
  .ofRows [
    optional "availableReplicas" .int32,
    optional "collisionCount" .int32,
    optional "conditions" (.list deploymentCondition),
    optional "observedGeneration" .int64,
    optional "readyReplicas" .int32,
    optional "replicas" .int32,
    optional "unavailableReplicas" .int32,
    optional "updatedReplicas" .int32]

/-- The `Deployment` object of `apps/v1`. -/
def deployment : Shape :=
  .ofRows [
    constant "apiVersion" "apps/v1",
    constant "kind" "Deployment",
    defaulted "metadata" objectMeta,
    optional "spec" deploymentSpec,
    optional "status" deploymentStatus]

/-- The `RollingUpdateStatefulSetStrategy` record. -/
def rollingUpdateStatefulSetStrategy : Shape :=
  .ofRows [
    optional "maxUnavailable" .intOrText,
    optional "partition" .int32]

/-- The `StatefulSetOrdinals` record. -/
def statefulSetOrdinals : Shape :=
  .ofRows [
    optional "start" .int32]

/-- The `StatefulSetPersistentVolumeClaimRetentionPolicy` record. -/
def statefulSetPersistentVolumeClaimRetentionPolicy : Shape :=
  .ofRows [
    optional "whenDeleted" .text,
    optional "whenScaled" .text]

/-- The `StatefulSetUpdateStrategy` record. -/
def statefulSetUpdateStrategy : Shape :=
  .ofRows [
    optional "rollingUpdate" rollingUpdateStatefulSetStrategy,
    optional "type" .text]

/-- The `StatefulSetSpec` record. -/
def statefulSetSpec : Shape :=
  .ofRows [
    optional "minReadySeconds" .int32,
    optional "ordinals" statefulSetOrdinals,
    optional "persistentVolumeClaimRetentionPolicy" statefulSetPersistentVolumeClaimRetentionPolicy,
    optional "podManagementPolicy" .text,
    optional "replicas" .int32,
    optional "revisionHistoryLimit" .int32,
    defaulted "selector" labelSelector,
    defaulted "serviceName" .text,
    defaulted "template" podTemplateSpec,
    optional "updateStrategy" statefulSetUpdateStrategy,
    optional "volumeClaimTemplates" (.list persistentVolumeClaim)]

/-- The `StatefulSetCondition` record. -/
def statefulSetCondition : Shape :=
  .ofRows [
    optional "lastTransitionTime" (.time .seconds),
    optional "message" .text,
    optional "reason" .text,
    defaulted "status" .text,
    defaulted "type" .text]

/-- The `StatefulSetStatus` record. -/
def statefulSetStatus : Shape :=
  .ofRows [
    optional "availableReplicas" .int32,
    optional "collisionCount" .int32,
    optional "conditions" (.list statefulSetCondition),
    optional "currentReplicas" .int32,
    optional "currentRevision" .text,
    optional "observedGeneration" .int64,
    optional "readyReplicas" .int32,
    defaulted "replicas" .int32,
    optional "updateRevision" .text,
    optional "updatedReplicas" .int32]

/-- The `StatefulSet` object of `apps/v1`. -/
def statefulSet : Shape :=
  .ofRows [
    constant "apiVersion" "apps/v1",
    constant "kind" "StatefulSet",
    defaulted "metadata" objectMeta,
    optional "spec" statefulSetSpec,
    optional "status" statefulSetStatus]

end ChangeRelay.Catalog
