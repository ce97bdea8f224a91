import ChangeRelay.Catalog.Meta
import ChangeRelay.Catalog.Pod

/-!
# Jobs

Jobs of the batch API.
-/

namespace ChangeRelay.Catalog

open Schema

/-- The `PodFailurePolicyOnExitCodesRequirement` record. -/
def podFailurePolicyOnExitCodesRequirement : Shape :=
  .ofRows [
    optional "containerName" .text,
    defaulted "operator" .text,
    defaulted "values" (.list .int32)]

/-- The `PodFailurePolicyOnPodConditionsPattern` record. -/
def podFailurePolicyOnPodConditionsPattern : Shape :=
  .ofRows [
    defaulted "status" .text,
    defaulted "type" .text]

/-- The `PodFailurePolicyRule` record. -/
def podFailurePolicyRule : Shape :=
  .ofRows [
    defaulted "action" .text,
    optional "onExitCodes" podFailurePolicyOnExitCodesRequirement,
    optional "onPodConditions" (.list podFailurePolicyOnPodConditionsPattern)]

/-- The `PodFailurePolicy` record. -/
def podFailurePolicy : Shape :=
  .ofRows [
    defaulted "rules" (.list podFailurePolicyRule)]

/-- The `SuccessPolicyRule` record. -/
def successPolicyRule : Shape :=
  .ofRows [
    optional "succeededCount" .int32,
    optional "succeededIndexes" .text]

/-- The `SuccessPolicy` record. -/
def successPolicy : Shape :=
  .ofRows [
    defaulted "rules" (.list successPolicyRule)]

/-- The `JobSpec` record. -/
def jobSpec : Shape :=
  .ofRows [
    optional "activeDeadlineSeconds" .int64,
    optional "backoffLimit" .int32,
    optional "backoffLimitPerIndex" .int32,
    optional "completionMode" .text,
    optional "completions" .int32,
    optional "managedBy" .text,
    optional "manualSelector" .flag,
    optional "maxFailedIndexes" .int32,
    optional "parallelism" .int32,
    optional "podFailurePolicy" podFailurePolicy,
    optional "podReplacementPolicy" .text,
    optional "selector" labelSelector,
    optional "successPolicy" successPolicy,
    optional "suspend" .flag,
    defaulted "template" podTemplateSpec,
    optional "ttlSecondsAfterFinished" .int32]

/-- The `JobCondition` record. -/
def jobCondition : Shape :=
  .ofRows [
    optional "lastProbeTime" (.time .seconds),
    optional "lastTransitionTime" (.time .seconds),
    optional "message" .text,
    optional "reason" .text,
    defaulted "status" .text,
    defaulted "type" .text]

/-- The `UncountedTerminatedPods` record. -/
def uncountedTerminatedPods : Shape :=
  .ofRows [
    optional "failed" (.list .text),
    optional "succeeded" (.list .text)]

/-- The `JobStatus` record. -/
def jobStatus : Shape :=
  .ofRows [
    optional "active" .int32,
    optional "completedIndexes" .text,
    optional "completionTime" (.time .seconds),
    optional "conditions" (.list jobCondition),
    optional "failed" .int32,
    optional "failedIndexes" .text,
    optional "ready" .int32,
    optional "startTime" (.time .seconds),
    optional "succeeded" .int32,
    optional "terminating" .int32,
    optional "uncountedTerminatedPods" uncountedTerminatedPods]

/-- The `Job` object of `batch/v1`. -/
def job : Shape :=
  .ofRows [
    constant "apiVersion" "batch/v1",
    constant "kind" "Job",
    defaulted "metadata" objectMeta,
    optional "spec" jobSpec,
    optional "status" jobStatus]

end ChangeRelay.Catalog
