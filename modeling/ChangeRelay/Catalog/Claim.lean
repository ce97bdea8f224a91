import ChangeRelay.Catalog.Meta

/-!
# Persistent volume claims

Claims on storage, as objects of their own and as templates.
-/

namespace ChangeRelay.Catalog

open Schema

/-- The `ModifyVolumeStatus` record. -/
def modifyVolumeStatus : Shape :=
  .ofRows [
    defaulted "status" .text,
    optional "targetVolumeAttributesClassName" .text]

/-- The `VolumeResourceRequirements` record. -/
def volumeResourceRequirements : Shape :=
  .ofRows [
    optional "limits" (.map .text),
    optional "requests" (.map .text)]

/-- The `PersistentVolumeClaimSpec` record. -/
def persistentVolumeClaimSpec : Shape :=
  .ofRows [
    optional "accessModes" (.list .text),
    optional "dataSource" typedLocalObjectReference,
    optional "dataSourceRef" typedObjectReference,
    optional "resources" volumeResourceRequirements,
    optional "selector" labelSelector,
    optional "storageClassName" .text,
    optional "volumeAttributesClassName" .text,
    optional "volumeMode" .text,
    optional "volumeName" .text]

/-- The `PersistentVolumeClaimCondition` record. -/
def persistentVolumeClaimCondition : Shape :=
  .ofRows [
    optional "lastProbeTime" (.time .seconds),
    optional "lastTransitionTime" (.time .seconds),
    optional "message" .text,
    optional "reason" .text,
    defaulted "status" .text,
    defaulted "type" .text]

/-- The `PersistentVolumeClaimStatus` record. -/
def persistentVolumeClaimStatus : Shape :=
  .ofRows [
    optional "accessModes" (.list .text),
    optional "allocatedResourceStatuses" (.map .text),
    optional "allocatedResources" (.map .text),
    optional "capacity" (.map .text),
    optional "conditions" (.list persistentVolumeClaimCondition),
    optional "currentVolumeAttributesClassName" .text,
    optional "modifyVolumeStatus" modifyVolumeStatus,
    optional "phase" .text]

/-- The `PersistentVolumeClaim` object of `v1`. -/
def persistentVolumeClaim : Shape :=
  .ofRows [
    constant "apiVersion" "v1",
    constant "kind" "PersistentVolumeClaim",
    defaulted "metadata" objectMeta,
    optional "spec" persistentVolumeClaimSpec,
    optional "status" persistentVolumeClaimStatus]

/-- The `PersistentVolumeClaimTemplate` record. -/
def persistentVolumeClaimTemplate : Shape :=
  .ofRows [
    optional "metadata" objectMeta,
    defaulted "spec" persistentVolumeClaimSpec]

end ChangeRelay.Catalog
