import ChangeRelay.Snapshot

/-!
# Changes

A change says what happened to one cluster object: it was created, updated or
deleted, or something else that only has a name.  An update may carry the state
that the object had before.
-/

namespace ChangeRelay

/-- What happened to an object. -/
inductive Reason where
  | created
  | updated
  | deleted
  | other (label : String)
deriving DecidableEq, Repr

namespace Reason

/-- The reason with this label. -/
def ofLabel (label : String) : Reason :=
  if label = "Created" then created
  else if label = "Updated" then updated
  else if label = "Deleted" then deleted
  else other label

/-- The label of a reason. -/
def label : Reason → String
  | created => "Created"
  | updated => "Updated"
  | deleted => "Deleted"
  | other label => label

@[simp]
theorem label_ofLabel (label : String) : (ofLabel label).label = label := by
  unfold ofLabel
  split
  · simp [Reason.label, *]
  · split
    · simp [Reason.label, *]
    · split <;> simp [Reason.label, *]

end Reason

/-- A change of a cluster object. -/
structure Change where
  kind : String
  reason : Reason
  current : Snapshot
  previous : Option Snapshot
deriving DecidableEq

namespace Change

/-- A change of an object, with its kind taken from the object. -/
def ofSnapshot (reason : Reason) (current : Snapshot) : Change :=
  ⟨current.kind?.getD "", reason, current, none⟩

/-- An object came into being. -/
def created (current : Snapshot) : Change :=
  ofSnapshot .created current

/-- An object went from one state to another. -/
def updated (current previous : Snapshot) : Change :=
  { ofSnapshot .updated current with previous := some previous }

/-- An object went away. -/
def deleted (current : Snapshot) : Change :=
  ofSnapshot .deleted current

/-- The name of the object, empty when it has none. -/
def name (change : Change) : String :=
  change.current.name?.getD ""

/-- The namespace of the object, empty when it has none. -/
def namespaceName (change : Change) : String :=
  change.current.namespace?.getD ""

/-- The members of the JSON form, in the order of their keys. -/
def toJson (change : Change) : Json :=
  .obj <|
    [("kind", .str change.kind), ("object", change.current.toJson)]
      ++ (change.previous.map fun previous => ("old_object", previous.toJson)).toList
      ++ [("reason", .str change.reason.label)]

end Change

end ChangeRelay
