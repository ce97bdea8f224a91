import ChangeRelay.Admission.PodReport
import ChangeRelay.Change

/-!
# Findings

A finding is the cause of an admission decision.  It determines both whether
the change is sent and what is logged, so the two cannot disagree.
-/

namespace ChangeRelay.Admission

/-- The kinds whose updates are compared with the state before. -/
inductive Workload where
  | job
  | pod
deriving DecidableEq, Repr

namespace Workload

/-- The kind name. -/
def kind : Workload → String
  | job => "Job"
  | pod => "Pod"

/-- The log field that holds the name of the object. -/
def field : Workload → String
  | job => "job"
  | pod => "pod"

/-- What an update without significance lacks. -/
def lacking : Workload → String
  | job => "no spec change or failure detected"
  | pod => "no significant changes detected"

end Workload

/-- Why a change is sent or dropped. -/
inductive Finding where
  /-- Filtering is off. -/
  | unfiltered
  /-- The kind has no rule. -/
  | unruled
  /-- Something other than the creation of an Event object. -/
  | eventNotCreated (reason : Reason)
  /-- A change of kind Event whose object is not an Event object. -/
  | eventUncast (name : String)
  /-- A new Event object about an eviction. -/
  | eventEvicted (name : String)
  /-- A new Event object that is not a warning. -/
  | eventRoutine (type : String)
  /-- A new Event object that is a warning. -/
  | eventWarning
  /-- A Job or Pod was created or deleted. -/
  | lifecycle
  /-- Something else happened to a Job or Pod than a creation, an update or a
  deletion. -/
  | unknownReason
  /-- An update of kind Job or Pod whose object is not a Job or Pod. -/
  | uncast (workload : Workload) (name : String)
  /-- An update without an earlier state of the same kind. -/
  | unpaired
  /-- The spec changed. -/
  | specChanged (workload : Workload) (name : String)
  /-- The Job has failed. -/
  | jobFailed (name : String)
  /-- The Pod is in trouble. -/
  | podTroubled (name : String) (signal : Signal)
  /-- Nothing about the update is significant. -/
  | routine (workload : Workload) (name : String)
deriving DecidableEq, Repr

namespace Finding

/-- Whether the change is sent. -/
def sends : Finding → Bool
  | eventNotCreated _ | eventRoutine _ | unknownReason | routine _ _ => false
  | _ => true

/-- The log entry about the finding, if there is one. -/
def entry? : Finding → Option Log.Entry
  | unfiltered | unruled | eventWarning | lifecycle | unknownReason | unpaired => none
  | eventNotCreated reason =>
      some <| Log.debug "Filtering out Event resource (only 'Created' events are sent)"
        [("reason", reason.label)]
  | eventUncast name =>
      some <| Log.warn "Unable to determine Event type for filtering, sending event"
        [("name", name)]
  | eventEvicted name =>
      some <| Log.debug "Event resource with reason 'Evicted' will be sent regardless of type"
        [("name", name)]
  | eventRoutine type =>
      some <| Log.debug "Filtering out Event resource (only Warning events are sent)"
        [("event_type", type)]
  | uncast workload name =>
      some <| Log.warn
        ("Unable to cast " ++ workload.kind ++ " object for filtering, sending event")
        [("name", name)]
  | specChanged workload name =>
      some <| Log.debug (workload.kind ++ " spec changed, sending update event")
        [(workload.field, name)]
  | jobFailed name =>
      some <| Log.debug "Job failed, sending update event" [("job", name)]
  | podTroubled name signal =>
      some <| Log.debug "Pod status is significant, sending update event"
        [("pod", name), ("signal", signal.name)]
  | routine workload name =>
      some <| Log.debug
        ("Filtering out " ++ workload.kind ++ " update event (" ++ workload.lacking ++ ")")
        [(workload.field, name)]

/-- What is logged about the finding. -/
def log (finding : Finding) : List Log.Entry :=
  finding.entry?.toList

end Finding

end ChangeRelay.Admission
