import ChangeRelay.Catalog.Meta

/-!
# Scheduling constraints

Where a pod may or should run.
-/

namespace ChangeRelay.Catalog

open Schema

/-- The `NodeSelectorRequirement` record. -/
def nodeSelectorRequirement : Shape :=
  .ofRows [
    defaulted "key" .text,
    defaulted "operator" .text,
    optional "values" (.list .text)]

/-- The `NodeSelectorTerm` record. -/
def nodeSelectorTerm : Shape :=
  .ofRows [
    optional "matchExpressions" (.list nodeSelectorRequirement),
    optional "matchFields" (.list nodeSelectorRequirement)]

/-- The `PreferredSchedulingTerm` record. -/
def preferredSchedulingTerm : Shape :=
  .ofRows [
    defaulted "preference" nodeSelectorTerm,
    defaulted "weight" .int32]

/-- The `NodeSelector` record. -/
def nodeSelector : Shape :=
  .ofRows [
    defaulted "nodeSelectorTerms" (.list nodeSelectorTerm)]

/-- The `NodeAffinity` record. -/
def nodeAffinity : Shape :=
  .ofRows [
    optional "preferredDuringSchedulingIgnoredDuringExecution" (.list preferredSchedulingTerm),
    optional "requiredDuringSchedulingIgnoredDuringExecution" nodeSelector]

/-- The `PodAffinityTerm` record. -/
def podAffinityTerm : Shape :=
  .ofRows [
    optional "labelSelector" labelSelector,
    optional "matchLabelKeys" (.list .text),
    optional "mismatchLabelKeys" (.list .text),
    optional "namespaceSelector" labelSelector,
    optional "namespaces" (.list .text),
    defaulted "topologyKey" .text]

/-- The `WeightedPodAffinityTerm` record. -/
def weightedPodAffinityTerm : Shape :=
  .ofRows [
    defaulted "podAffinityTerm" podAffinityTerm,
    defaulted "weight" .int32]

/-- The `PodAffinity` record. -/
def podAffinity : Shape :=
  .ofRows [
    optional "preferredDuringSchedulingIgnoredDuringExecution" (.list weightedPodAffinityTerm),
    optional "requiredDuringSchedulingIgnoredDuringExecution" (.list podAffinityTerm)]

/-- The `PodAntiAffinity` record. -/
def podAntiAffinity : Shape :=
  .ofRows [
    optional "preferredDuringSchedulingIgnoredDuringExecution" (.list weightedPodAffinityTerm),
    optional "requiredDuringSchedulingIgnoredDuringExecution" (.list podAffinityTerm)]

/-- The `Affinity` record. -/
def affinity : Shape :=
  .ofRows [
    optional "nodeAffinity" nodeAffinity,
    optional "podAffinity" podAffinity,
    optional "podAntiAffinity" podAntiAffinity]

/-- The `PodReadinessGate` record. -/
def podReadinessGate : Shape :=
  .ofRows [
    defaulted "conditionType" .text]

/-- The `PodSchedulingGate` record. -/
def podSchedulingGate : Shape :=
  .ofRows [
    defaulted "name" .text]

/-- The `Toleration` record. -/
def toleration : Shape :=
  .ofRows [
    optional "effect" .text,
    optional "key" .text,
    optional "operator" .text,
    optional "tolerationSeconds" .int64,
    optional "value" .text]

/-- The `TopologySpreadConstraint` record. -/
def topologySpreadConstraint : Shape :=
  .ofRows [
    optional "labelSelector" labelSelector,
    optional "matchLabelKeys" (.list .text),
    defaulted "maxSkew" .int32,
    optional "minDomains" .int32,
    optional "nodeAffinityPolicy" .text,
    optional "nodeTaintsPolicy" .text,
    defaulted "topologyKey" .text,
    defaulted "whenUnsatisfiable" .text]

end ChangeRelay.Catalog
