import ChangeRelay.Resource
import ChangeRelay.Schema.Intake

/-!
# Objects of a resource

An object is a datum together with the proof that it fits the shape of its
resource.  Every object has metadata, and its key tells it apart from the other
objects of its resource.
-/

namespace ChangeRelay

open Schema

/-- An object of a resource. -/
structure Object (resource : Resource) where
  datum : Datum
  fits : resource.shape.Fits datum

namespace Object

variable {resource : Resource}

/-- Objects with equal data are equal. -/
@[ext]
theorem ext {left right : Object resource} (data : left.datum = right.datum) : left = right := by
  cases left
  cases right
  cases data
  rfl

instance : DecidableEq (Object resource) := fun left right =>
  if data : left.datum = right.datum then isTrue (ext data)
  else isFalse fun equal => data (equal ▸ rfl)

/-- The object that a JSON value stands for. -/
def read? (resource : Resource) (value : Json) : Option (Object resource) :=
  match read : resource.shape.read? value with
  | some datum => some ⟨datum, resource.shape.fits_of_read? read⟩
  | none => none

/-- The object that a draft holds. -/
def take (resource : Resource) (room : Nat) (draft : Json.Draft) :
    Except Json.Trouble (Object resource) := do
  let value ← resource.shape.take room draft
  match read? resource value with
  | some object => .ok object
  | none => .error .fault

/-- The JSON form of an object. -/
def toJson (object : Object resource) : Json :=
  object.datum.toJson

/-- A text in the metadata of an object. -/
def metadataText? (name : String) (object : Object resource) : Option String :=
  (object.datum.get? "metadata").bind (·.textField? name)

def name? (object : Object resource) : Option String :=
  object.metadataText? "name"

def namespace? (object : Object resource) : Option String :=
  object.metadataText? "namespace"

def uid? (object : Object resource) : Option String :=
  object.metadataText? "uid"

/-- The version of the state of an object. -/
def resourceVersion? (object : Object resource) : Option String :=
  object.metadataText? "resourceVersion"

/-- The name of an object, or what its name is to be generated from. -/
def nameOrStem (object : Object resource) : String :=
  (object.name?.or (object.metadataText? "generateName")).getD ""

/-- The key of an object: its unique id, or else namespace and name. -/
def key (object : Object resource) : String :=
  object.uid?.getD (object.namespace?.getD "" ++ "/" ++ object.nameOrStem)

/-- A field of an object. -/
def get? (name : String) (object : Object resource) : Option Datum :=
  object.datum.get? name

end Object

end ChangeRelay
