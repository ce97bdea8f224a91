import ChangeRelay.Log.Entry
import ChangeRelay.Object

/-!
# Snapshots

A snapshot is the state of a cluster object at one moment.  The admission rules
look into Event objects, Jobs and Pods, so these are kept with their types; any
other object is kept as the JSON value that it is.

A payload that claims to be of one of these kinds but cannot be read as such is
kept as JSON too, so that nothing is lost at the boundary.
-/

namespace ChangeRelay

/-- The state of an object. -/
inductive Snapshot where
  | coreEvent (object : Object .events)
  | eventsV1 (object : Object .eventsV1)
  | job (object : Object .jobs)
  | pod (object : Object .pods)
  | other (value : Json)
deriving DecidableEq

namespace Snapshot

/-- The snapshot of an object of a resource. -/
def ofObject : {resource : Resource} → Object resource → Snapshot
  | .events, object => .coreEvent object
  | .eventsV1, object => .eventsV1 object
  | .jobs, object => .job object
  | .pods, object => .pod object
  | .deployments, object | .daemonSets, object | .statefulSets, object
  | .services, object | .nodes, object => .other object.toJson

/-- Whether a payload says that it comes from the events API. -/
def isFromEventsApi (value : Json) : Bool :=
  match value.textAt? ["apiVersion"] with
  | some version => "events.k8s.io/".toList.isPrefixOf version.toList
  | none => false

/-- The resource that a payload of a kind is read as, for the kinds that are
kept with their types. -/
def typedResource? (kind : String) (value : Json) : Option Resource :=
  if kind = "Event" then some (if isFromEventsApi value then .eventsV1 else .events)
  else if kind = "Job" then some .jobs
  else if kind = "Pod" then some .pods
  else none

/-- The snapshot of a payload of a kind, and what is logged about it.  The entry about a payload
that does not match its kind names the kind; it leaves out in which words the reader of the
payload complained, which an `error` field would say. -/
def classify (kind : String) (value : Json) : Snapshot × List Log.Entry :=
  match typedResource? kind value with
  | none => (.other value, [])
  | some resource =>
      match Object.read? resource value with
      | some object => (ofObject object, [])
      | none =>
          (.other value,
            [Log.debug "payload does not match its kind, keeping it opaque" [("kind", kind)]])

/-- The kind that an object carries. -/
def kind? : Snapshot → Option String
  | coreEvent _ | eventsV1 _ => some "Event"
  | job _ => some "Job"
  | pod _ => some "Pod"
  | other value => value.textAt? ["kind"]

/-- The name of an object. -/
def name? : Snapshot → Option String
  | coreEvent object => object.name?
  | eventsV1 object => object.name?
  | job object => object.name?
  | pod object => object.name?
  | other value => value.textAt? ["metadata", "name"]

/-- The namespace of an object. -/
def namespace? : Snapshot → Option String
  | coreEvent object => object.namespace?
  | eventsV1 object => object.namespace?
  | job object => object.namespace?
  | pod object => object.namespace?
  | other value => value.textAt? ["metadata", "namespace"]

/-- The JSON form of an object. -/
def toJson : Snapshot → Json
  | coreEvent object => object.toJson
  | eventsV1 object => object.toJson
  | job object => object.toJson
  | pod object => object.toJson
  | other value => value

end Snapshot

end ChangeRelay
