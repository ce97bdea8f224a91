import ChangeRelay.Relay.Channel
import ChangeRelay.Relay.Trace
import ChangeRelay.Text.Quotation
import ChangeRelay.Tracker
import ChangeRelay.Watch.Course

/-!
# Readers of watches

The reader of a watch leads its notifications through a tracker and sends the
changes that come out to the hub.  It takes no further item while a change
waits to be sent.  Faults are logged and change nothing.  The reader ends well
when the hub takes no more changes, and badly when the watch has no more items.
-/

namespace ChangeRelay.Watch

open Relay

/-- What a reader is about to do. -/
inductive Phase where
  /-- Take the next item. -/
  | reading
  /-- Send this change. -/
  | sending (change : Change)
  /-- Nothing any more. -/
  | ended (result : Except PluginError Unit)

/-- The reader of a watch. -/
structure Reader (resource : Resource) where
  tracker : Tracker resource
  phase : Phase

namespace Reader

variable {resource : Resource}

/-- A namespace as it is shown in the log. -/
def namespaceText : Option String → String
  | none => "None"
  | some name => "Some(" ++ Text.quote name ++ ")"

/-- The reader at the beginning of its watch, and what it leaves behind. -/
def start (namespaceName : Option String) (trace : Trace) : Reader resource × Trace :=
  (⟨.empty, .reading⟩,
    (trace.addLog [Log.info "K8s ingestor started watching"
      [("kind", resource.kind), ("namespace", namespaceText namespaceName)]]).addMeasure
      .watchStarted)

/-- The reader comes to its end. -/
def finish (result : Except PluginError Unit) (reader : Reader resource) (trace : Trace) :
    Reader resource × Trace :=
  ({ reader with phase := .ended result },
    (trace.addMeasure .watchStopped).addLog [Log.info "K8s ingestor stopped"
      [("kind", resource.kind), ("tracked", toString reader.tracker.size)]])

/-- The phase in which a report leaves a reader. -/
def phaseAfter : Option Change → Phase
  | none => .reading
  | some change => .sending change

/-- Take an item, if the reader is about to. -/
def take (item : Item resource) (reader : Reader resource) (trace : Trace) :
    Reader resource × Trace :=
  match reader.phase, item with
  | .reading, .notification notification =>
      (⟨reader.tracker.next notification, phaseAfter (reader.tracker.report? notification)⟩, trace)
  | .reading, .fault fault =>
      (reader, trace.addLog [Log.warn "K8s watcher error"
        [("kind", resource.kind), ("error", fault.message)]])
  | .sending _, _ | .ended _, _ => (reader, trace)

/-- The watch has no more items. -/
def noMoreItems (reader : Reader resource) (trace : Trace) : Reader resource × Trace :=
  match reader.phase with
  | .reading => reader.finish (.error (.watch (resource.kind ++ " watch stream ended"))) trace
  | .sending _ | .ended _ => (reader, trace)

/-- The change that the reader was about to send was taken, or was not. -/
def afterSending (sending : Sending) (reader : Reader resource) (trace : Trace) :
    Reader resource × Trace :=
  match reader.phase, sending with
  | .sending _, .accepted => ({ reader with phase := .reading }, trace)
  | .sending _, .failed _ =>
      reader.finish (.ok ()) (trace.addLog
        [Log.debug "K8s ingestor channel closed" [("kind", resource.kind)]])
  | _, _ => (reader, trace)

end Reader

end ChangeRelay.Watch
