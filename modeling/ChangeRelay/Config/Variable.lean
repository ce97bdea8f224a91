/-!
# Variables

The settings of the relay are read from named variables.
-/

namespace ChangeRelay

/-- A variable that holds a setting. -/
inductive Variable where
  | advancedFilters
  | namespaceName
  | labelSelector
  | resources
  | webhookUrl
  | channelCapacity
  | metricsAddress
  | logLevel
  | logFormat
deriving DecidableEq, Repr

namespace Variable

/-- The name of a variable. -/
def name : Variable → String
  | advancedFilters => "ADVANCED_FILTERS"
  | namespaceName => "KUBEWATCH_NAMESPACE"
  | labelSelector => "KUBEWATCH_LABEL_SELECTOR"
  | resources => "KUBEWATCH_RESOURCES"
  | webhookUrl => "KUBEWATCH_WEBHOOK_URL"
  | channelCapacity => "KUBEWATCH_CHANNEL_CAPACITY"
  | metricsAddress => "KUBEWATCH_METRICS_ADDR"
  | logLevel => "KUBEWATCH_LOG_LEVEL"
  | logFormat => "KUBEWATCH_LOG_FORMAT"

/-- Every variable. -/
def all : List Variable :=
  [advancedFilters, namespaceName, labelSelector, resources, webhookUrl, channelCapacity,
    metricsAddress, logLevel, logFormat]

/-- Variables are told apart by their names. -/
theorem name_injective {first second : Variable} (same : first.name = second.name) :
    first = second := by
  revert same
  cases first <;> cases second <;> decide

end Variable

end ChangeRelay
