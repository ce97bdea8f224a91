import ChangeRelay.Proofs.Schema.RoundTrip

/-!
# Which values a shape refuses

A value is refused because of one place in it, at any depth: a scalar that is not of
its kind or out of its range, a value that is not a list, a map or a record where
there has to be one, or a field that is missing and has to be there.  A part that is
refused makes the whole refused, unless it is the value of a key that names no field.

Reading fails exactly for the values that are refused.
-/

namespace ChangeRelay

/-- A value that is not an integer from a lower to below an upper bound. -/
def Json.NoIntegerIn (lower upper : Int) (value : Json) : Prop :=
  ∀ number, value = .num (.int number) → ¬ (lower ≤ number ∧ number < upper)

namespace Schema

open Calendar (Precision Instant)

mutual

/-- A value in which some place is not what a shape demands. -/
inductive Shape.Refuses : Shape → Json → Prop where
  | text {value : Json} (other : ∀ text, value ≠ .str text) : Shape.Refuses .text value
  | flag {value : Json} (other : ∀ flag, value ≠ .bool flag) : Shape.Refuses .flag value
  | int32 {value : Json} (outside : value.NoIntegerIn (-integerBound 32) (integerBound 32)) :
      Shape.Refuses .int32 value
  | int64 {value : Json} (outside : value.NoIntegerIn (-integerBound 64) (integerBound 64)) :
      Shape.Refuses .int64 value
  | uint16 {value : Json} (outside : value.NoIntegerIn 0 65536) : Shape.Refuses .uint16 value
  | intOrText {value : Json} (outside : value.NoIntegerIn (-integerBound 32) (integerBound 32))
      (other : ∀ text, value ≠ .str text) : Shape.Refuses .intOrText value
  | time {precision : Precision} {value : Json}
      (unreadable : ∀ text, value = .str text → Instant.ofTimestamp? text = none) :
      Shape.Refuses (.time precision) value
  | constant {expected : String} {value : Json} (different : value ≠ .str expected) :
      Shape.Refuses (.constant expected) value
  | notList {item : Shape} {value : Json} (other : ∀ values, value ≠ .arr values) :
      Shape.Refuses (.list item) value
  | item {item : Shape} {value : Json} {values : List Json} (member : value ∈ values)
      (refused : Shape.Refuses item value) : Shape.Refuses (.list item) (.arr values)
  | notMap {shape : Shape} {value : Json} (other : ∀ members, value ≠ .obj members) :
      Shape.Refuses (.map shape) value
  | entry {shape : Shape} {entry : String × Json} {members : List (String × Json)}
      (member : entry ∈ members) (refused : Shape.Refuses shape entry.2) :
      Shape.Refuses (.map shape) (.obj members)
  | notRecord {fields : Fields} {value : Json} (other : ∀ members, value ≠ .obj members) :
      Shape.Refuses (.record fields) value
  | record {fields : Fields} {members : List (String × Json)}
      (refused : Fields.Refuses fields members) : Shape.Refuses (.record fields) (.obj members)

/-- Members of an object in which some field is not what is demanded of it. -/
inductive Fields.Refuses : Fields → List (String × Json) → Prop where
  | missing {name : String} {shape : Shape} {rest : Fields} {members : List (String × Json)}
      (absent : ∀ value, Json.lookup name members = some value → value = .null) :
      Fields.Refuses (.cons name .required shape rest) members
  /-- A field that is `null` is missing, unless it is a constant one. -/
  | present {name : String} {presence : Presence} {shape : Shape} {rest : Fields}
      {members : List (String × Json)} {value : Json}
      (found : Json.lookup name members = some value) (counts : value = .null → presence = .implied)
      (refused : Shape.Refuses shape value) :
      Fields.Refuses (.cons name presence shape rest) members
  | later {name : String} {presence : Presence} {shape : Shape} {rest : Fields}
      {members : List (String × Json)} (refused : Fields.Refuses rest members) :
      Fields.Refuses (.cons name presence shape rest) members

end

/-! ## Scalars -/

theorem readInt?_eq_none_iff (bits : Nat) (value : Json) :
    readInt? bits value = none ↔ value.NoIntegerIn (-integerBound bits) (integerBound bits) := by
  cases value with
  | num number => cases number <;> simp [readInt?, Json.int?, Json.NoIntegerIn]
  | _ => simp [readInt?, Json.int?, Json.NoIntegerIn]

theorem readBelow?_eq_none_iff (bound : Int) (value : Json) :
    readBelow? bound value = none ↔ value.NoIntegerIn 0 bound := by
  cases value with
  | num number => cases number <;> simp [readBelow?, Json.int?, Json.NoIntegerIn]
  | _ => simp [readBelow?, Json.int?, Json.NoIntegerIn]

theorem str?_eq_none_iff (value : Json) : value.str? = none ↔ ∀ text, value ≠ .str text := by
  cases value <;> simp [Json.str?]

theorem bool?_eq_none_iff (value : Json) : value.bool? = none ↔ ∀ flag, value ≠ .bool flag := by
  cases value <;> simp [Json.bool?]

/-! ## Lists and fields -/

/-- Reading a list fails exactly if reading one of its values does. -/
theorem mapM_eq_none_iff {α β : Type} (read : α → Option β) (values : List α) :
    values.mapM read = none ↔ ∃ value ∈ values, read value = none := by
  induction values with
  | nil => simp
  | cons value rest ih =>
      cases first : read value with
      | none => simp [first]
      | some item =>
          have later : (value :: rest).mapM read = none ↔ rest.mapM read = none := by
            cases others : rest.mapM read <;> simp [first, others]
          rw [later, ih]
          simp [first]

/-- Reading a field fails exactly if it is missing and has to be there, or if its value
counts and cannot be read. -/
theorem Shape.readField?_eq_none_iff (shape : Shape) (presence : Presence) (found : Option Json) :
    shape.readField? presence found = none ↔
      (presence = .required ∧ ∀ value, found = some value → value = .null) ∨
        ∃ value, found = some value ∧ (value = .null → presence = .implied) ∧
          shape.read? value = none := by
  have missing : shape.readMissing? presence = none ↔ presence = .required := by
    cases presence <;> simp [readMissing?]
  cases found with
  | none => simp [readField?, missing]
  | some value =>
      by_cases skipped : value = .null ∧ presence ≠ .implied
      · simp [readField?, skipped, missing]
      · rw [readField?, if_neg skipped, Option.map_eq_none_iff]
        have counts : value = .null → presence = .implied := by simpa using skipped
        constructor
        · intro failed
          exact .inr ⟨value, rfl, counts, failed⟩
        · rintro (⟨rfl, absent⟩ | ⟨_, ⟨⟩, _, failed⟩)
          · cases counts (absent value rfl)
          · exact failed

theorem Fields.read?_cons_eq_none_iff (name : String) (presence : Presence) (shape : Shape)
    (rest : Fields) (members : List (String × Json)) :
    (Fields.cons name presence shape rest).read? members = none ↔
      shape.readField? presence (Json.lookup name members) = none ∨ rest.read? members = none := by
  rw [Fields.read?_cons]
  cases shape.readField? presence (Json.lookup name members) with
  | none => simp
  | some here => cases rest.read? members <;> simp

/-! ## All shapes -/

namespace Shape

theorem read?_list_eq_none_iff (item : Shape) (value : Json) :
    (Shape.list item).read? value = none ↔
      (∀ values, value ≠ .arr values) ∨
        ∃ values, value = .arr values ∧ ∃ part ∈ values, item.read? part = none := by
  rw [read?]
  cases value with
  | arr values => simp [Json.arr?, mapM_eq_none_iff]
  | _ => simp [Json.arr?]

theorem read?_map_eq_none_iff (shape : Shape) (value : Json) :
    (Shape.map shape).read? value = none ↔
      (∀ members, value ≠ .obj members) ∨
        ∃ members, value = .obj members ∧ ∃ entry ∈ members, shape.read? entry.2 = none := by
  rw [read?]
  cases value with
  | obj members => simp [Json.obj?, mapM_eq_none_iff]
  | _ => simp [Json.obj?]

theorem read?_record_eq_none_iff (fields : Fields) (value : Json) :
    (Shape.record fields).read? value = none ↔
      (∀ members, value ≠ .obj members) ∨
        ∃ members, value = .obj members ∧ fields.read? members = none := by
  rw [read?]
  cases value <;> simp [Json.obj?]

end Shape

mutual

/-- Reading fails exactly for the values that a shape refuses. -/
theorem Shape.read?_eq_none_iff : (shape : Shape) → (value : Json) →
    (shape.read? value = none ↔ shape.Refuses value)
  | .text, value => by
      rw [Shape.read?, Option.map_eq_none_iff, str?_eq_none_iff]
      exact ⟨.text, fun | .text other => other⟩
  | .flag, value => by
      rw [Shape.read?, Option.map_eq_none_iff, bool?_eq_none_iff]
      exact ⟨.flag, fun | .flag other => other⟩
  | .int32, value => by
      rw [Shape.read?, readInt?_eq_none_iff]
      exact ⟨.int32, fun | .int32 outside => outside⟩
  | .int64, value => by
      rw [Shape.read?, readInt?_eq_none_iff]
      exact ⟨.int64, fun | .int64 outside => outside⟩
  | .uint16, value => by
      rw [Shape.read?, readBelow?_eq_none_iff]
      exact ⟨.uint16, fun | .uint16 outside => outside⟩
  | .intOrText, value => by
      rw [Shape.read?, Option.orElse_eq_orElse, Option.orElse_eq_or, Option.or_eq_none_iff,
        readInt?_eq_none_iff, Option.map_eq_none_iff, str?_eq_none_iff]
      exact ⟨fun ⟨outside, other⟩ => .intOrText outside other,
        fun | .intOrText outside other => ⟨outside, other⟩⟩
  | .time precision, value => by
      rw [Shape.read?, Option.map_eq_none_iff]
      constructor
      · intro unreadable
        refine .time ?_
        rintro text rfl
        exact unreadable
      · intro refused
        cases refused with
        | time unreadable =>
            cases value with
            | str text => exact unreadable text rfl
            | _ => rfl
  | .free, value => by
      constructor
      · intro failed
        cases failed
      · rintro ⟨⟩
  | .constant expected, value => by
      rw [Shape.read?, ite_eq_right_iff]
      constructor
      · intro different
        exact .constant fun same => nomatch different same
      · intro refused same
        cases refused with
        | constant different => exact absurd same different
  | .list item, value => by
      rw [Shape.read?_list_eq_none_iff]
      constructor
      · rintro (other | ⟨values, rfl, part, member, failed⟩)
        · exact .notList other
        · exact .item member ((item.read?_eq_none_iff part).mp failed)
      · intro refused
        cases refused with
        | notList other => exact .inl other
        | item member refused =>
            exact .inr ⟨_, rfl, _, member, (item.read?_eq_none_iff _).mpr refused⟩
  | .map shape, value => by
      rw [Shape.read?_map_eq_none_iff]
      constructor
      · rintro (other | ⟨members, rfl, entry, member, failed⟩)
        · exact .notMap other
        · exact .entry member ((shape.read?_eq_none_iff entry.2).mp failed)
      · intro refused
        cases refused with
        | notMap other => exact .inl other
        | entry member refused =>
            exact .inr ⟨_, rfl, _, member, (shape.read?_eq_none_iff _).mpr refused⟩
  | .record fields, value => by
      rw [Shape.read?_record_eq_none_iff]
      constructor
      · rintro (other | ⟨members, rfl, failed⟩)
        · exact .notRecord other
        · exact .record ((fields.read?_eq_none_iff members).mp failed)
      · intro refused
        cases refused with
        | notRecord other => exact .inl other
        | record refused => exact .inr ⟨_, rfl, (fields.read?_eq_none_iff _).mpr refused⟩

/-- Reading fails exactly for the members that the fields refuse. -/
theorem Fields.read?_eq_none_iff : (fields : Fields) → (members : List (String × Json)) →
    (fields.read? members = none ↔ fields.Refuses members)
  | .nil, members => by
      constructor
      · intro failed
        cases failed
      · rintro ⟨⟩
  | .cons name presence shape rest, members => by
      rw [Fields.read?_cons_eq_none_iff, Shape.readField?_eq_none_iff]
      constructor
      · rintro ((⟨rfl, absent⟩ | ⟨value, found, counts, failed⟩) | failed)
        · exact .missing absent
        · exact .present found counts ((shape.read?_eq_none_iff value).mp failed)
        · exact .later ((rest.read?_eq_none_iff members).mp failed)
      · intro refused
        cases refused with
        | missing absent => exact .inl (.inl ⟨rfl, absent⟩)
        | present found counts refused =>
            exact .inl (.inr ⟨_, found, counts, (shape.read?_eq_none_iff _).mpr refused⟩)
        | later refused => exact .inr ((rest.read?_eq_none_iff members).mpr refused)

end

end Schema

end ChangeRelay
