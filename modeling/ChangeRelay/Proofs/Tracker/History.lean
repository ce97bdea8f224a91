import ChangeRelay.Proofs.Since
import ChangeRelay.Tracker

/-!
# What a history says

A history of notifications says by itself which object a key stands for, and
which change its next notification amounts to.  The last notification that
decides about the key counts: a new state of an object, its going away, or the
end of a listing that had begun.

The tracker after a history, in whatever order its notifications came, knows
what the history says.  Its two stores are tied to the history by one invariant
each: the gathered listing holds the objects listed last, and the known objects
are what is recalled.
-/

namespace ChangeRelay

variable {resource : Resource}

/-- The tracker after a history. -/
def Tracker.after (history : List (Notification resource)) : Tracker resource :=
  history.foldl next empty

namespace Tracker

@[simp]
theorem after_nil : after ([] : List (Notification resource)) = empty :=
  rfl

@[simp]
theorem after_concat (history : List (Notification resource)) (step : Notification resource) :
    after (history ++ [step]) = (after history).next step := by
  simp [after]

end Tracker

namespace Notification

/-- A listing begins or has one more object. -/
def Gathers : Notification resource → Prop
  | .listBegins | .listed _ => True
  | .listEnds | .applied _ | .deleted _ => False

/-- An object that was listed before under this key is no longer the one that
is listed. -/
def Discards (key : String) : Notification resource → Prop
  | .listBegins | .listEnds => True
  | .listed object => object.key = key
  | .applied _ | .deleted _ => False

/-- An object with this key has a new state or went away. -/
def Concerns (key : String) : Notification resource → Prop
  | .applied object | .deleted object => object.key = key
  | .listBegins | .listed _ | .listEnds => False

end Notification

namespace History

/-! ## Listings -/

/-- A listing has begun, or an object was listed, and no listing has ended
since. -/
def ListingOpen (history : List (Notification resource)) : Prop :=
  Since (fun _ step => step.Gathers) (fun _ step => step = .listEnds) history

/-- The notification ends a listing that is open after the notifications before
it. -/
def CompletesListing (before : List (Notification resource)) (step : Notification resource) :
    Prop :=
  step = .listEnds ∧ ListingOpen before

/-- The object is the one that was listed last under a key, in the listing that
is open and after the last beginning of it. -/
def LastListed (key : String) (object : Object resource)
    (history : List (Notification resource)) : Prop :=
  Since (fun _ step => step = .listed object ∧ object.key = key)
    (fun _ step => step.Discards key) history

/-! ## Recalling an object -/

/-- The notification decides which object a key stands for: it concerns the key
or completes a listing. -/
def Decides (key : String) (before : List (Notification resource))
    (step : Notification resource) : Prop :=
  step.Concerns key ∨ CompletesListing before step

/-- The object that a key stands for after a notification that decides it. -/
inductive Leaves (key : String) :
    Option (Object resource) → List (Notification resource) → Notification resource → Prop where
  | applied {before : List (Notification resource)} {object : Object resource}
      (same : object.key = key) : Leaves key (some object) before (.applied object)
  | deleted {before : List (Notification resource)} {object : Object resource}
      (same : object.key = key) : Leaves key none before (.deleted object)
  | listed {before : List (Notification resource)} {step : Notification resource}
      {object : Object resource} (completes : CompletesListing before step)
      (last : LastListed key object before) : Leaves key (some object) before step
  | unlisted {before : List (Notification resource)} {step : Notification resource}
      (completes : CompletesListing before step)
      (never : ∀ object, ¬ LastListed key object before) : Leaves key none before step

/-- What a history says about a key: what the last notification that decides it
leaves, and nothing if none does. -/
def Recalls (key : String) (found? : Option (Object resource))
    (history : List (Notification resource)) : Prop :=
  Since (Leaves key found?) (Decides key) history ∨ (found? = none ∧ Never (Decides key) history)

/-- The change that a notification amounts to after a history. -/
inductive Reports (history : List (Notification resource)) :
    Notification resource → Option Change → Prop where
  | updated {object previous : Object resource}
      (known : Recalls object.key (some previous) history) :
      Reports history (.applied object)
        (some ⟨resource.kind, .updated, .ofObject object, some (.ofObject previous)⟩)
  | created {object : Object resource} (unknown : Recalls object.key none history) :
      Reports history (.applied object) (some ⟨resource.kind, .created, .ofObject object, none⟩)
  | deleted {object : Object resource} :
      Reports history (.deleted object) (some ⟨resource.kind, .deleted, .ofObject object, none⟩)
  | listBegins : Reports history .listBegins none
  | listed {object : Object resource} : Reports history (.listed object) none
  | listEnds : Reports history .listEnds none

end History

end ChangeRelay
