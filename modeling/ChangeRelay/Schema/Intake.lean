import ChangeRelay.Json.Reader
import ChangeRelay.Schema.Reading

/-!
# Taking values from text

An object comes as text that may break off, or that may stop fitting its shape
long before its end.  `Shape.take` walks through a draft in the order of the
text and yields the value that the shape needs, or the trouble that it meets
first.  The value that it yields is one that the shape accepts.

A value of the wrong kind is a fault as soon as it begins.  A field may occur
twice; every occurrence has to fit, and the last one counts.  Whether a field
is there at all is seen where the record ends.
-/

namespace ChangeRelay.Schema

open Json (Closing Draft Quotation Trouble)

/-- The shape of a field with this name, and what the field means when it is
missing. -/
def Fields.find? (name : String) : Fields → Option (Presence × Shape)
  | .nil => none
  | .cons field presence shape rest =>
      if field = name then some (presence, shape) else rest.find? name

/-- A value, if a shape accepts it. -/
def Shape.check (shape : Shape) (value : Json) : Except Trouble Json :=
  if (shape.read? value).isSome then .ok value else .error .fault

/-- A value that is checked is one that the shape accepts. -/
theorem Shape.isSome_read?_of_check {shape : Shape} {value checked : Json}
    (accepted : shape.check value = .ok checked) : (shape.read? checked).isSome := by
  unfold Shape.check at accepted
  split at accepted
  · injection accepted with same
    exact same ▸ ‹_›
  · simp at accepted

mutual

/-- The value that a shape takes from a draft, with room for so many containers
inside one another. -/
def Shape.take (room : Nat) (shape : Shape) : Draft → Except Trouble Json
  | .arr items closing =>
      match shape, room with
      | .free, room => (Draft.arr items closing).value room
      | .list item, room + 1 => do
          let values ← item.takeItems room items
          closing.finish (shape.check (.arr values))
      | _, _ => .error .fault
  | .obj members closing =>
      match shape, room with
      | .free, room => (Draft.obj members closing).value room
      | .map value, room + 1 => do
          let values ← value.takeEntries room [] members
          closing.finish (shape.check (.obj values))
      | .record fields, room + 1 => do
          let values ← fields.takeMembers room [] members
          closing.finish (shape.check (.obj values))
      | _, _ => .error .fault
  | scalar => do
      let value ← scalar.value room
      shape.check value

/-- The values that the items of a list are taken for. -/
def Shape.takeItems (room : Nat) (shape : Shape) : List Draft → Except Trouble (List Json)
  | [] => .ok []
  | item :: rest => do
      let first ← shape.take room item
      return first :: (← shape.takeItems room rest)

/-- The values that the entries of a map are taken for. -/
def Shape.takeEntries (room : Nat) (shape : Shape) (taken : List (String × Json)) :
    List (Quotation × Draft) → Except Trouble (List (String × Json))
  | [] => .ok taken
  | (key, draft) :: rest => do
      let name ← key.read
      let value ← shape.take room draft
      shape.takeEntries room (Json.insertMember name value taken) rest

/-- The values that the members of a record are taken for.  Members that are no
fields are passed over. -/
def Fields.takeMembers (room : Nat) (fields : Fields) (taken : List (String × Json)) :
    List (Quotation × Draft) → Except Trouble (List (String × Json))
  | [] => .ok taken
  | (key, draft) :: rest => do
      let name ← key.read
      match fields.find? name with
      | none =>
          draft.skim
          fields.takeMembers room taken rest
      | some (presence, shape) =>
          let value ←
            if draft.isNull && presence != .implied then .ok .null else shape.take room draft
          fields.takeMembers room (Json.insertMember name value taken) rest

end

/-! ## Records that are written in two ways

The records about a whole reply are objects in which no field may occur twice
or be `null`, or arrays of their values.
-/

/-- The values of members, of which no field may occur twice. -/
def Fields.takeOnce (room : Nat) (fields : Fields) (taken : List (String × Json)) :
    List (Quotation × Draft) → Except Trouble (List (String × Json))
  | [] => .ok taken
  | (key, draft) :: rest => do
      let name ← key.read
      match fields.find? name with
      | none =>
          draft.skim
          fields.takeOnce room taken rest
      | some (_, shape) =>
          if (Json.lookup name taken).isSome then .error .fault
          else do
            let value ← shape.take room draft
            fields.takeOnce room (Json.insertMember name value taken) rest

/-- The values of items, which belong to the fields with these names. -/
def Fields.takeRow (room : Nat) (fields : Fields) (taken : List (String × Json)) :
    List String → List Draft → Except Trouble (List (String × Json))
  | _, [] => .ok taken
  | [], _ :: _ => .error .fault
  | name :: names, item :: items =>
      match fields.find? name with
      | none => .error .fault
      | some (_, shape) => do
          let value ← shape.take room item
          fields.takeRow room (Json.insertMember name value taken) names items

/-- The value that is taken for a record of either form.  In an array the
values come in the order of `names`. -/
def Fields.takeEither (room : Nat) (fields : Fields) (names : List String) :
    Draft → Except Trouble Json
  | .obj members closing =>
      match room with
      | 0 => .error .fault
      | room + 1 => do
          let values ← fields.takeOnce room [] members
          closing.finish ((Shape.record fields).check (.obj values))
  | .arr items closing =>
      match room with
      | 0 => .error .fault
      | room + 1 => do
          let values ← fields.takeRow room [] names items
          closing.finish ((Shape.record fields).check (.obj values))
  | scalar => do
      let _ ← scalar.value room
      .error .fault

end ChangeRelay.Schema
