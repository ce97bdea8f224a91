import ChangeRelay.Object
import ChangeRelay.Text.Parts

/-!
# What a Pod reports about itself

A `PodReport` is the part of a Pod's status that the admission rules look at.
Init containers and regular containers count alike.  The signals of trouble are
ordered: the first one that a report shows is the one that is named.
-/

namespace ChangeRelay.Admission

open Schema

/-- What a Pod reports about one of its containers. -/
structure ContainerReport where
  restartCount : Int
  waitingReason : Option String
  terminatedReason : Option String
  lastTerminatedReason : Option String
deriving DecidableEq, Repr

namespace ContainerReport

/-- The reason in one of the records of a container state. -/
def stateReason? (state record : String) (status : Datum) : Option String :=
  ((status.get? state).bind (·.get? record)).bind (·.textField? "reason")

/-- The report in a container status. -/
def ofStatus (status : Datum) : ContainerReport where
  restartCount := ((status.get? "restartCount").bind Datum.int?).getD 0
  waitingReason := stateReason? "state" "waiting" status
  terminatedReason := stateReason? "state" "terminated" status
  lastTerminatedReason := stateReason? "lastState" "terminated" status

/-- Whether the container was ever restarted. -/
def hasRestarted (report : ContainerReport) : Bool :=
  0 < report.restartCount

/-- Whether the image of the container cannot be pulled. -/
def isBackingOff (report : ContainerReport) : Bool :=
  report.waitingReason == some "ImagePullBackOff"

/-- Whether the container ran out of memory, now or the last time it ended. -/
def isOomKilled (report : ContainerReport) : Bool :=
  report.terminatedReason == some "OOMKilled" || report.lastTerminatedReason == some "OOMKilled"

end ContainerReport

/-- What a Pod reports about itself. -/
structure PodReport where
  phase : Option String
  reason : Option String
  message : Option String
  containers : List ContainerReport
deriving DecidableEq, Repr

/-- A sign of trouble in the report of a Pod. -/
inductive Signal where
  | restarted
  | imagePullBackOff
  | evicted
  | oomKilled
deriving DecidableEq, Repr

namespace Signal

/-- The name of a signal in the log. -/
def name : Signal → String
  | restarted => "container restarts"
  | imagePullBackOff => "ImagePullBackOff"
  | evicted => "eviction"
  | oomKilled => "OOMKilled container"

/-- Every signal, in the order in which they are looked for. -/
def all : List Signal :=
  [restarted, imagePullBackOff, evicted, oomKilled]

end Signal

namespace PodReport

/-- The report in a Pod status. -/
def ofStatus (status : Datum) : PodReport where
  phase := status.textField? "phase"
  reason := status.textField? "reason"
  message := status.textField? "message"
  containers :=
    (status.itemsField "initContainerStatuses" ++ status.itemsField "containerStatuses").map
      ContainerReport.ofStatus

/-- The report of a Pod, if it has a status. -/
def of? (pod : Object .pods) : Option PodReport :=
  (pod.get? "status").map ofStatus

/-- Whether the Pod was evicted: it failed for that reason, or its message says
so.  Case matters. -/
def isEvicted (report : PodReport) : Bool :=
  (report.phase == some "Failed" && report.reason == some "Evicted")
    || report.message.any (Text.mentions · "evicted")

/-- Whether the report shows a signal. -/
def shows (report : PodReport) : Signal → Bool
  | .restarted => report.containers.any (·.hasRestarted)
  | .imagePullBackOff => report.containers.any (·.isBackingOff)
  | .evicted => report.isEvicted
  | .oomKilled => report.containers.any (·.isOomKilled)

/-- The first signal that the report shows. -/
def signal? (report : PodReport) : Option Signal :=
  Signal.all.find? report.shows

end PodReport

end ChangeRelay.Admission
