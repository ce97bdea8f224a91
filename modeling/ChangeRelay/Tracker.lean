import ChangeRelay.Change
import ChangeRelay.Store

/-!
# Trackers

A watch only reports the new state of an object.  A tracker remembers the last
state of every object of one resource, so that an update can carry both.

A listing is gathered apart from the known objects and replaces them when it
ends.  It reports nothing: objects that were there before the watch began are
not created by it.
-/

namespace ChangeRelay

/-- What a watch of a resource tells. -/
inductive Notification (resource : Resource) where
  /-- A listing of all objects begins. -/
  | listBegins
  /-- An object belongs to the listing. -/
  | listed (object : Object resource)
  /-- The listing is complete. -/
  | listEnds
  /-- An object has this new state. -/
  | applied (object : Object resource)
  /-- An object went away in this last state. -/
  | deleted (object : Object resource)
deriving DecidableEq

/-- The objects of a resource as they were last seen. -/
structure Tracker (resource : Resource) where
  known : Store (Object resource)
  /-- The objects of a listing that is not complete yet. -/
  listing : Option (Store (Object resource))

namespace Tracker

variable {resource : Resource}

/-- The tracker that has seen nothing. -/
def empty : Tracker resource :=
  ⟨Store.empty, none⟩

/-- The number of known objects. -/
def size (tracker : Tracker resource) : Nat :=
  tracker.known.size

/-- Whether no object is known. -/
def isEmpty (tracker : Tracker resource) : Bool :=
  tracker.known.isEmpty

/-- The last known state of the object with a key. -/
def known? (tracker : Tracker resource) (key : String) : Option (Object resource) :=
  tracker.known.get? key

/-- What is known after a notification. -/
def next (tracker : Tracker resource) : Notification resource → Tracker resource
  | .listBegins => { tracker with listing := some Store.empty }
  | .listed object =>
      { tracker with
        listing := some ((tracker.listing.getD Store.empty).insert object.key object) }
  | .listEnds => ⟨tracker.listing.getD tracker.known, none⟩
  | .applied object => { tracker with known := tracker.known.insert object.key object }
  | .deleted object => { tracker with known := tracker.known.erase object.key }

/-- A change of an object of the resource. -/
def changeOf (reason : Reason) (object : Object resource) (previous : Option (Object resource)) :
    Change :=
  ⟨resource.kind, reason, .ofObject object, previous.map .ofObject⟩

/-- The change that a notification amounts to. -/
def report? (tracker : Tracker resource) : Notification resource → Option Change
  | .listBegins | .listed _ | .listEnds => none
  | .applied object =>
      match tracker.known? object.key with
      | some previous => some (changeOf .updated object (some previous))
      | none => some (changeOf .created object none)
  | .deleted object => some (changeOf .deleted object none)

end Tracker

end ChangeRelay
