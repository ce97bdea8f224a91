import ChangeRelay.Error
import ChangeRelay.Log.Directive
import ChangeRelay.Text.Unsigned

/-!
# Faults of settings

Each fault is one way in which the settings of the relay cannot be used.
-/

namespace ChangeRelay

/-- What is wrong with the settings. -/
inductive ConfigFault where
  /-- A resource list contains this name, in lower case. -/
  | unknownResource (name : String)
  /-- A resource list is blank. -/
  | noResources
  /-- A resource list names both groups that serve Event objects. -/
  | conflictingEvents
  /-- The channel capacity is no number. -/
  | capacityUnreadable (fault : Text.UnsignedFault)
  /-- The channel capacity is zero. -/
  | capacityZero
  /-- The metrics address is no socket address. -/
  | metricsAddress
  /-- The log format, in lower case, is not one of the two. -/
  | logFormat (text : String)
  /-- The log level is no list of directives. -/
  | logLevel (level : String) (fault : Log.DirectiveFault)
  /-- Logging was set up before. -/
  | loggingInstalled
deriving DecidableEq, Repr

namespace ConfigFault

/-- The fault in words. -/
def text : ConfigFault → String
  | unknownResource name => "unknown resource in KUBEWATCH_RESOURCES: " ++ name
  | noResources => "KUBEWATCH_RESOURCES names no resources"
  | conflictingEvents =>
      "KUBEWATCH_RESOURCES: 'events' and 'events.k8s.io' watch the same objects, pick one"
  | capacityUnreadable fault => "invalid KUBEWATCH_CHANNEL_CAPACITY: " ++ fault.message
  | capacityZero => "KUBEWATCH_CHANNEL_CAPACITY must be greater than 0"
  | metricsAddress => "invalid KUBEWATCH_METRICS_ADDR: invalid socket address syntax"
  | logFormat text =>
      "invalid KUBEWATCH_LOG_FORMAT: " ++ text ++ " (expected 'json' or 'pretty')"
  | logLevel level fault => "invalid log level '" ++ level ++ "': " ++ fault.message
  | loggingInstalled =>
      "failed to initialize logging: a global default trace dispatcher has already been set"

/-- Whether the fault stops the program at once. -/
def isAbrupt : ConfigFault → Bool
  | logLevel _ fault => fault.isAbrupt
  | _ => false

/-- The fault as an error of the relay. -/
def toRelayError (fault : ConfigFault) : RelayError :=
  .config fault.text

end ConfigFault

end ChangeRelay
