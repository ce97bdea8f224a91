import ChangeRelay.Relay.Hub
import ChangeRelay.Watch.Group
import ChangeRelay.Watch.Reader

/-!
# Sessions

A session runs the watches of some resources against an API whose replies are
known, until each watch has ended or waits for a reply that never comes.  Then
the watches are broken off and the hub comes to its end.

The hub takes every change as soon as it is sent.  It may also be gone from the
start; then a watch ends with the first change that it has to send.
-/

namespace ChangeRelay.Relay

open Watch

/-- The hub of a configuration, with one emitter. -/
def Hub.ofConfig (config : Config) (emitter : Emitter) : Hub :=
  let filter := (Admission.Filter.ofSetting config.advancedFilters).1
  ((Hub.default.withCapacity config.channelCapacity).addStage (.ofFilter filter)).addEmitter emitter

/-- What the watches of a session share: the hub, unless it is gone, and what
they leave behind. -/
structure Surroundings where
  pipeline : Option Pipeline
  trace : Trace

/-- How a watch of a session went. -/
structure WatchReport where
  resource : Resource
  path : String
  /-- The queries of its questions, in their order. -/
  queries : List String
  /-- How the watch ended, unless it waits for a reply. -/
  result : Option (Except PluginError Unit)

namespace Session

variable {resource : Resource}

/-- Send the change that a reader is about to send, if there is one. -/
def deliver (reader : Reader resource) (around : Surroundings) :
    Reader resource × Surroundings :=
  match reader.phase with
  | .reading | .ended _ => (reader, around)
  | .sending change =>
      match around.pipeline with
      | none =>
          let refused := Sending.failed Refusal.closed.toPluginError
          let (next, trace) := reader.afterSending refused around.trace
          (next, ⟨none, trace⟩)
      | some pipeline =>
          let (sending, channel) := pipeline.channel.send change
          let (next, trace) := reader.afterSending sending around.trace
          (next, ⟨some { pipeline with channel }.drain, trace⟩)

/-- Take an item, and send what comes out of it. -/
def turn (item : Item resource) (reader : Reader resource) (around : Surroundings) :
    Reader resource × Surroundings :=
  let (next, trace) := reader.take item around.trace
  deliver next { around with trace }

/-- Take items one after another, and send what comes out of each. -/
def takeAll : List (Item resource) → Reader resource → Surroundings →
    Reader resource × Surroundings
  | [], reader, around => (reader, around)
  | item :: items, reader, around =>
      let (next, after) := turn item reader around
      takeAll items next after

/-- The result of a reader that has ended. -/
def resultOf (reader : Reader resource) : Option (Except PluginError Unit) :=
  match reader.phase with
  | .ended result => some result
  | .reading | .sending _ => none

/-- Run a watch over its replies.  The queries of its questions come back. -/
def runReplies (selection : Selection) (address : String) :
    List Reply → Progress resource → Reader resource → Surroundings →
      List String × Reader resource × Surroundings
  | replies, progress, reader, around =>
      let (reader, around) := takeAll progress.items reader around
      match resultOf reader, replies with
      | some _, _ => ([], reader, around)
      | none, [] => ([(progress.question.target selection address).query], reader, around)
      | none, reply :: rest =>
          let (queries, last) :=
            runReplies selection address rest (.ofReply progress.question reply) reader around
          ((progress.question.target selection address).query :: queries, last)

/-- Run the watch of a resource. -/
def runWatch (selection : Selection) (replies : String → List Reply) (resource : Resource)
    (around : Surroundings) : WatchReport × Surroundings :=
  let address := address resource selection
  let path := (Target.ofAddress address).path
  let namespaceName := if resource.isNamespaced then selection.namespaceName else none
  let (reader, trace) := (Reader.start namespaceName around.trace : Reader resource × Trace)
  let (queries, last, after) :=
    runReplies selection address (replies path) .beginning reader { around with trace }
  (⟨resource, path, queries, resultOf last⟩, after)

/-- Run the watches of some resources. -/
def runWatches (selection : Selection) (replies : String → List Reply) :
    List Resource → Surroundings → List WatchReport × Surroundings
  | [], around => ([], around)
  | resource :: rest, around =>
      let (report, next) := runWatch selection replies resource around
      let (reports, last) := runWatches selection replies rest next
      (report :: reports, last)

/-- The watches of a session as a group. -/
def group (reports : List WatchReport) : Group :=
  let spawned := reports.foldl (fun group report => group.spawn report.resource) Group.empty
  reports.foldl (fun group report =>
    match report.result with
    | some result => group.finish ⟨report.resource, .returned result⟩
    | none => group) spawned

end Session

/-- How a session went. -/
structure SessionReport where
  watches : List WatchReport
  /-- The report of the hub, unless it was gone. -/
  hub : Option Report
  /-- What the watches left behind. -/
  trace : Trace

namespace SessionReport

/-- The watches as a group. -/
def group (report : SessionReport) : Group :=
  Session.group report.watches

/-- The metrics after the session. -/
def metrics (report : SessionReport) : Metrics.Registry :=
  let watched := report.trace.updateMetrics .zero
  match report.hub with
  | some hub => hub.runner.trace.updateMetrics watched
  | none => watched

/-- The text that the emitter printed. -/
def printed (report : SessionReport) : String :=
  (report.hub.map fun hub => hub.runner.trace.printed).getD ""

/-- The requests that the emitter sent. -/
def sent (report : SessionReport) : List Network.Http.Request :=
  (report.hub.map fun hub => hub.runner.trace.requests).getD []

/-- How many faults the watches met. -/
def faultCount (report : SessionReport) : Nat :=
  (report.trace.log.filter fun entry => entry.message = "K8s watcher error").length

end SessionReport

/-- Run a session.  There is none if the capacity of the hub is out of range. -/
def runSession (selection : Selection) (replies : String → List Reply)
    (resources : List Resource) (hub : Hub) (hubIsGone : Bool) : Option SessionReport := do
  let channel ← hub.openChannel?
  let pipeline := if hubIsGone then none else some ⟨channel, hub.start⟩
  let (watches, around) := Session.runWatches selection replies resources ⟨pipeline, .empty⟩
  return ⟨watches, around.pipeline.map fun pipeline => pipeline.drain.runner.finish, around.trace⟩

end ChangeRelay.Relay
