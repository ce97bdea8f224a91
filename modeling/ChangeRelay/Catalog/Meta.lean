import ChangeRelay.Schema.Shape

/-!
# Metadata, selectors and references

The metadata that every object carries, and the small records by which objects
select or name one another, or pick single fields or keys of one another.
-/

namespace ChangeRelay.Catalog

open Schema

/-- The `Condition` record. -/
def condition : Shape :=
  .ofRows [
    required "lastTransitionTime" (.time .seconds),
    defaulted "message" .text,
    optional "observedGeneration" .int64,
    defaulted "reason" .text,
    defaulted "status" .text,
    defaulted "type" .text]

/-- The `LabelSelectorRequirement` record. -/
def labelSelectorRequirement : Shape :=
  .ofRows [
    defaulted "key" .text,
    defaulted "operator" .text,
    optional "values" (.list .text)]

/-- The `LabelSelector` record. -/
def labelSelector : Shape :=
  .ofRows [
    optional "matchExpressions" (.list labelSelectorRequirement),
    optional "matchLabels" (.map .text)]

/-- The `LocalObjectReference` record. -/
def localObjectReference : Shape :=
  .ofRows [
    defaulted "name" .text]

/-- The `ManagedFieldsEntry` record. -/
def managedFieldsEntry : Shape :=
  .ofRows [
    optional "apiVersion" .text,
    optional "fieldsType" .text,
    optional "fieldsV1" .free,
    optional "manager" .text,
    optional "operation" .text,
    optional "subresource" .text,
    optional "time" (.time .seconds)]

/-- The `OwnerReference` record. -/
def ownerReference : Shape :=
  .ofRows [
    defaulted "apiVersion" .text,
    optional "blockOwnerDeletion" .flag,
    optional "controller" .flag,
    defaulted "kind" .text,
    defaulted "name" .text,
    defaulted "uid" .text]

/-- The `ObjectMeta` record. -/
def objectMeta : Shape :=
  .ofRows [
    optional "annotations" (.map .text),
    optional "creationTimestamp" (.time .seconds),
    optional "deletionGracePeriodSeconds" .int64,
    optional "deletionTimestamp" (.time .seconds),
    optional "finalizers" (.list .text),
    optional "generateName" .text,
    optional "generation" .int64,
    optional "labels" (.map .text),
    optional "managedFields" (.list managedFieldsEntry),
    optional "name" .text,
    optional "namespace" .text,
    optional "ownerReferences" (.list ownerReference),
    optional "resourceVersion" .text,
    optional "selfLink" .text,
    optional "uid" .text]

/-- The `ObjectReference` record. -/
def objectReference : Shape :=
  .ofRows [
    optional "apiVersion" .text,
    optional "fieldPath" .text,
    optional "kind" .text,
    optional "name" .text,
    optional "namespace" .text,
    optional "resourceVersion" .text,
    optional "uid" .text]

/-- The `TypedLocalObjectReference` record. -/
def typedLocalObjectReference : Shape :=
  .ofRows [
    optional "apiGroup" .text,
    defaulted "kind" .text,
    defaulted "name" .text]

/-- The `TypedObjectReference` record. -/
def typedObjectReference : Shape :=
  .ofRows [
    optional "apiGroup" .text,
    defaulted "kind" .text,
    defaulted "name" .text,
    optional "namespace" .text]

/-- The `KeyToPath` record. -/
def keyToPath : Shape :=
  .ofRows [
    defaulted "key" .text,
    optional "mode" .int32,
    defaulted "path" .text]

/-- The `ObjectFieldSelector` record. -/
def objectFieldSelector : Shape :=
  .ofRows [
    optional "apiVersion" .text,
    defaulted "fieldPath" .text]

/-- The `ResourceFieldSelector` record. -/
def resourceFieldSelector : Shape :=
  .ofRows [
    optional "containerName" .text,
    optional "divisor" .text,
    defaulted "resource" .text]

end ChangeRelay.Catalog
