import ChangeRelay.Admission.Filter

/-!
# The decision table

The table says which changes an admission filter sends.  It looks at the objects
of a change through paths of fields, it asks whether there is an item in a list
and never in which order items are looked at, and it knows nothing of findings.
-/

namespace ChangeRelay

open Schema

/-- The datum at the end of a path of fields. -/
def Schema.Datum.path? : List String → Datum → Option Datum
  | [], datum => some datum
  | name :: rest, datum => (datum.get? name).bind (path? rest)

namespace Snapshot

/-- The object of a snapshot that is kept with the type of this resource. -/
def typed? : (resource : Resource) → Snapshot → Option (Object resource)
  | .events, .coreEvent object => some object
  | .eventsV1, .eventsV1 object => some object
  | .jobs, .job object => some object
  | .pods, .pod object => some object
  | _, _ => none

/-- The fields of an Event object, of whichever API. -/
def event? : Snapshot → Option Datum
  | .coreEvent object => some object.datum
  | .eventsV1 object => some object.datum
  | _ => none

end Snapshot

namespace Admission

/-! ## Significant states -/

/-- An Event object that is worth sending when it is new. -/
def EventMatters (event : Datum) : Prop :=
  event.path? ["reason"] = some (.text "Evicted") ∨ event.path? ["type"] = some (.text "Warning")

/-- Some condition of a Job says that it failed. -/
def JobFailed (job : Object .jobs) : Prop :=
  ∃ conditions, job.datum.path? ["status", "conditions"] = some (.list conditions) ∧
    ∃ condition ∈ conditions, condition.path? ["type"] = some (.text "Failed") ∧
      condition.path? ["status"] = some (.text "True")

/-- The status of a container of a Pod, be it an init container or a regular
one. -/
def HasContainer (pod : Object .pods) (container : Datum) : Prop :=
  ∃ field ∈ ["initContainerStatuses", "containerStatuses"],
    ∃ statuses, pod.datum.path? ["status", field] = some (.list statuses) ∧ container ∈ statuses

/-- The status of a Pod shows a sign of trouble. -/
inductive PodShows (pod : Object .pods) : Signal → Prop where
  | restarted {container : Datum} {count : Int} (has : HasContainer pod container)
      (restarts : container.path? ["restartCount"] = some (.int count)) (positive : 0 < count) :
      PodShows pod .restarted
  | imagePullBackOff {container : Datum} (has : HasContainer pod container)
      (waits : container.path? ["state", "waiting", "reason"] = some (.text "ImagePullBackOff")) :
      PodShows pod .imagePullBackOff
  | evictedForReason (phase : pod.datum.path? ["status", "phase"] = some (.text "Failed"))
      (reason : pod.datum.path? ["status", "reason"] = some (.text "Evicted")) :
      PodShows pod .evicted
  | evictedByMessage {message : String}
      (told : pod.datum.path? ["status", "message"] = some (.text message))
      (mentions : "evicted".toList <:+: message.toList) : PodShows pod .evicted
  | oomKilled {container : Datum} (has : HasContainer pod container)
      (ended : container.path? ["state", "terminated", "reason"] = some (.text "OOMKilled")) :
      PodShows pod .oomKilled
  | oomKilledBefore {container : Datum} (has : HasContainer pod container)
      (ended : container.path? ["lastState", "terminated", "reason"] = some (.text "OOMKilled")) :
      PodShows pod .oomKilled

namespace Workload

/-- The resource of the objects of a workload. -/
def resource : Workload → Resource
  | job => .jobs
  | pod => .pods

/-- The shape of the spec of a workload. -/
def specShape : Workload → Shape
  | job => Catalog.jobSpec
  | pod => Catalog.podSpec

/-- The spec of an object.  A missing spec is the default one. -/
def specOf (workload : Workload) (object : Object workload.resource) : Datum :=
  (object.get? "spec").getD workload.specShape.default

/-- The status of an object is significant by itself. -/
def Significant : (workload : Workload) → Object workload.resource → Prop
  | job, object => JobFailed object
  | pod, object => ∃ signal, PodShows object signal

end Workload

/-! ## The rows of the table -/

/-- The row for Event objects. -/
def EventPasses (change : Change) : Prop :=
  change.reason = .created ∧
    (change.current.event? = none ∨
      ∃ event, change.current.event? = some event ∧ EventMatters event)

/-- The row for updates of a workload. -/
def UpdatePasses (workload : Workload) (change : Change) : Prop :=
  change.current.typed? workload.resource = none ∨
    change.previous.bind (Snapshot.typed? workload.resource) = none ∨
    (∃ current previous, change.current.typed? workload.resource = some current ∧
      change.previous.bind (Snapshot.typed? workload.resource) = some previous ∧
      workload.specOf current ≠ workload.specOf previous) ∨
    ∃ current, change.current.typed? workload.resource = some current ∧
      workload.Significant current

/-- The row for a workload. -/
def WorkloadPasses (workload : Workload) (change : Change) : Prop :=
  change.reason = .created ∨ change.reason = .deleted ∨
    (change.reason = .updated ∧ UpdatePasses workload change)

/-- The changes that a filter sends by the table. -/
def Passes (filter : Filter) (change : Change) : Prop :=
  filter.enabled = false ∨
    change.kind ∉ ["Event", "Job", "Pod"] ∨
    (change.kind = "Event" ∧ EventPasses change) ∨
    ∃ workload : Workload, change.kind = workload.kind ∧ WorkloadPasses workload change

end Admission

end ChangeRelay
