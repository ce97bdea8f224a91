import ChangeRelay.Schema.Datum
import ChangeRelay.Schema.Shape

/-!
# Reading API objects

`Shape.read?` turns a JSON value into a datum, or refuses it.  A record is read
only from an object; keys that name no field are passed over.  Whatever is
read, and every default value, fits the shape it was read for.
-/

namespace ChangeRelay.Schema

open Calendar (Instant)

/-! ## Default values -/

mutual

/-- The value of a field of this shape that is missing. -/
def Shape.default : Shape → Datum
  | .text => .text ""
  | .flag => .flag false
  | .int32 | .int64 | .uint16 | .intOrText => .int 0
  | .time precision => .time precision .epoch
  | .free => .free .null
  | .constant value => .text value
  | .list _ => .list []
  | .map _ => .record []
  | .record fields => .record fields.default

/-- The entries of a record in which every field is missing. -/
def Fields.default : Fields → List (String × Datum)
  | .nil => []
  | .cons _ .optional _ rest => rest.default
  | .cons name _ shape rest => (name, shape.default) :: rest.default

end

/-! ## Reading -/

/-- Integers of this many bits, the sign included, stay below this bound. -/
def integerBound (bits : Nat) : Int :=
  Nat.pow 2 (bits - 1)

/-- An integer of at most this many bits, the sign included. -/
def readInt? (bits : Nat) (value : Json) : Option Datum :=
  match value.int? with
  | some number =>
      if -integerBound bits ≤ number ∧ number < integerBound bits then some (.int number)
      else none
  | none => none

/-- An integer from zero to below a bound. -/
def readBelow? (bound : Int) (value : Json) : Option Datum :=
  match value.int? with
  | some number => if 0 ≤ number ∧ number < bound then some (.int number) else none
  | none => none

/-- The value of a field, if there is one and it is not `null`. -/
def presentValue? (name : String) (members : List (String × Json)) : Option Json :=
  match Json.lookup name members with
  | some .null => none
  | found => found

mutual

/-- The datum that a JSON value stands for. -/
def Shape.read? : Shape → Json → Option Datum
  | .text, value => value.str?.map Datum.text
  | .flag, value => value.bool?.map Datum.flag
  | .int32, value => readInt? 32 value
  | .int64, value => readInt? 64 value
  | .uint16, value => readBelow? 65536 value
  | .intOrText, value => readInt? 32 value <|> value.str?.map Datum.text
  | .time precision, value =>
      (value.str?.bind Instant.ofTimestamp?).map (Datum.time precision)
  | .free, value => some (.free value)
  | .constant expected, value =>
      if value = .str expected then some (.text expected) else none
  | .list item, value =>
      value.arr?.bind fun values => (values.mapM item.read?).map Datum.list
  | .map shape, value =>
      value.obj?.bind fun members =>
        (members.mapM fun member => (shape.read? member.2).map (member.1, ·)).map Datum.record
  | .record fields, value =>
      value.obj?.bind fun members => (fields.read? members).map Datum.record

/-- The entries of a record. -/
def Fields.read? : Fields → List (String × Json) → Option (List (String × Datum))
  | .nil, _ => some []
  | .cons name .optional shape rest, members =>
      match presentValue? name members with
      | none => rest.read? members
      | some value => do return (name, ← shape.read? value) :: (← rest.read? members)
  | .cons name .defaulted shape rest, members =>
      match presentValue? name members with
      | none => do return (name, shape.default) :: (← rest.read? members)
      | some value => do return (name, ← shape.read? value) :: (← rest.read? members)
  | .cons name .required shape rest, members =>
      match presentValue? name members with
      | none => none
      | some value => do return (name, ← shape.read? value) :: (← rest.read? members)
  | .cons name .implied shape rest, members =>
      match Json.lookup name members with
      | none => do return (name, shape.default) :: (← rest.read? members)
      | some value => do return (name, ← shape.read? value) :: (← rest.read? members)

end

/-! ## Data that fit a shape -/

mutual

/-- Data of a shape. -/
inductive Shape.Fits : Shape → Datum → Prop where
  | text (value : String) : Shape.Fits .text (.text value)
  | flag (value : Bool) : Shape.Fits .flag (.flag value)
  | int32 {value : Int} (lower : -integerBound 32 ≤ value)
      (upper : value < integerBound 32) :
      Shape.Fits .int32 (.int value)
  | int64 {value : Int} (lower : -integerBound 64 ≤ value)
      (upper : value < integerBound 64) :
      Shape.Fits .int64 (.int value)
  | uint16 {value : Int} (lower : 0 ≤ value) (upper : value < 65536) :
      Shape.Fits .uint16 (.int value)
  | intAlternative {value : Int} (lower : -integerBound 32 ≤ value)
      (upper : value < integerBound 32) :
      Shape.Fits .intOrText (.int value)
  | textAlternative (value : String) : Shape.Fits .intOrText (.text value)
  | time (precision : Calendar.Precision) (value : Instant) :
      Shape.Fits (.time precision) (.time precision value)
  | free (value : Json) : Shape.Fits .free (.free value)
  | constant (value : String) : Shape.Fits (.constant value) (.text value)
  | list {item : Shape} {items : List Datum} (each : ∀ datum ∈ items, Shape.Fits item datum) :
      Shape.Fits (.list item) (.list items)
  | map {shape : Shape} {entries : List (String × Datum)}
      (each : ∀ entry ∈ entries, Shape.Fits shape entry.2) :
      Shape.Fits (.map shape) (.record entries)
  | record {fields : Fields} {entries : List (String × Datum)}
      (fits : Fields.Fits fields entries) : Shape.Fits (.record fields) (.record entries)

/-- Entries of a record with these fields. -/
inductive Fields.Fits : Fields → List (String × Datum) → Prop where
  | nil : Fields.Fits .nil []
  | absent {name : String} {shape : Shape} {rest : Fields} {entries : List (String × Datum)}
      (others : Fields.Fits rest entries) : Fields.Fits (.cons name .optional shape rest) entries
  | present {name : String} {presence : Presence} {shape : Shape} {rest : Fields}
      {value : Datum} {entries : List (String × Datum)}
      (here : Shape.Fits shape value) (others : Fields.Fits rest entries) :
      Fields.Fits (.cons name presence shape rest) ((name, value) :: entries)

end

mutual

/-- A default value fits its shape. -/
theorem Shape.fits_default : (shape : Shape) → shape.Fits shape.default
  | .text => .text _
  | .flag => .flag _
  | .int32 => .int32 (by decide) (by decide)
  | .int64 => .int64 (by decide) (by decide)
  | .uint16 => .uint16 (by decide) (by decide)
  | .intOrText => .intAlternative (by decide) (by decide)
  | .time _ => .time _ _
  | .free => .free _
  | .constant _ => .constant _
  | .list _ => .list (by simp)
  | .map _ => .map (by simp)
  | .record fields => .record fields.fits_default

/-- The default entries of a record fit its fields. -/
theorem Fields.fits_default : (fields : Fields) → fields.Fits fields.default
  | .nil => .nil
  | .cons _ .optional _ rest => .absent rest.fits_default
  | .cons _ .defaulted shape rest => .present shape.fits_default rest.fits_default
  | .cons _ .required shape rest => .present shape.fits_default rest.fits_default
  | .cons _ .implied shape rest => .present shape.fits_default rest.fits_default

end

theorem readInt?_eq_some {bits : Nat} {value : Json} {datum : Datum}
    (read : readInt? bits value = some datum) :
    ∃ number : Int, datum = .int number ∧
      -integerBound bits ≤ number ∧ number < integerBound bits := by
  unfold readInt? at read
  split at read
  · split at read
    · rename_i number _ bounds
      exact ⟨number, by simpa using read.symm, bounds⟩
    · simp at read
  · simp at read

theorem readBelow?_eq_some {bound : Int} {value : Json} {datum : Datum}
    (read : readBelow? bound value = some datum) :
    ∃ number : Int, datum = .int number ∧ 0 ≤ number ∧ number < bound := by
  unfold readBelow? at read
  split at read
  · split at read
    · rename_i number _ bounds
      exact ⟨number, by simpa using read.symm, bounds⟩
    · simp at read
  · simp at read

/-- Every item that reading a list yields was read from some value. -/
theorem exists_of_mapM_eq_some {α β : Type} {read : α → Option β} {values : List α}
    {items : List β} (all : values.mapM read = some items) :
    ∀ item ∈ items, ∃ value ∈ values, read value = some item := by
  induction values generalizing items with
  | nil =>
      simp only [List.mapM_nil, Option.pure_def, Option.some.injEq] at all
      subst all
      simp
  | cons value rest ih =>
      simp only [List.mapM_cons, Option.pure_def, Option.bind_eq_bind,
        Option.bind_eq_some_iff, Option.some.injEq] at all
      obtain ⟨first, firstRead, others, othersRead, rfl⟩ := all
      intro item member
      rcases List.mem_cons.mp member with rfl | member
      · exact ⟨value, by simp, firstRead⟩
      · obtain ⟨source, sourceMember, sourceRead⟩ := ih othersRead item member
        exact ⟨source, by simp [sourceMember], sourceRead⟩

mutual

/-- What is read for a shape fits it. -/
theorem Shape.fits_of_read? : (shape : Shape) → {value : Json} → {datum : Datum} →
    shape.read? value = some datum → shape.Fits datum
  | .text, _, _, read => by
      simp only [Shape.read?, Option.map_eq_some_iff] at read
      obtain ⟨_, _, rfl⟩ := read
      exact .text _
  | .flag, _, _, read => by
      simp only [Shape.read?, Option.map_eq_some_iff] at read
      obtain ⟨_, _, rfl⟩ := read
      exact .flag _
  | .int32, _, _, read => by
      obtain ⟨number, rfl, lower, upper⟩ := readInt?_eq_some (by simpa [Shape.read?] using read)
      exact .int32 lower upper
  | .int64, _, _, read => by
      obtain ⟨number, rfl, lower, upper⟩ := readInt?_eq_some (by simpa [Shape.read?] using read)
      exact .int64 lower upper
  | .uint16, _, _, read => by
      obtain ⟨number, rfl, lower, upper⟩ := readBelow?_eq_some (by simpa [Shape.read?] using read)
      exact .uint16 lower upper
  | .intOrText, value, _, read => by
      simp only [Shape.read?] at read
      cases number : readInt? 32 value with
      | some datum =>
          rw [number] at read
          obtain rfl : datum = _ := Option.some.inj read
          obtain ⟨_, rfl, lower, upper⟩ := readInt?_eq_some number
          exact .intAlternative lower upper
      | none =>
          rw [number] at read
          obtain ⟨_, _, rfl⟩ := Option.map_eq_some_iff.mp read
          exact .textAlternative _
  | .time _, _, _, read => by
      simp only [Shape.read?, Option.map_eq_some_iff] at read
      obtain ⟨_, _, rfl⟩ := read
      exact .time _ _
  | .free, _, _, read => by
      simp only [Shape.read?, Option.some.injEq] at read
      subst read
      exact .free _
  | .constant _, _, _, read => by
      simp only [Shape.read?, Option.ite_none_right_eq_some, Option.some.injEq] at read
      obtain ⟨_, rfl⟩ := read
      exact .constant _
  | .list item, _, _, read => by
      simp only [Shape.read?, Option.bind_eq_some_iff, Option.map_eq_some_iff] at read
      obtain ⟨_, _, _, all, rfl⟩ := read
      refine .list fun datum member => ?_
      obtain ⟨_, _, itemRead⟩ := exists_of_mapM_eq_some all datum member
      exact item.fits_of_read? itemRead
  | .map shape, _, _, read => by
      simp only [Shape.read?, Option.bind_eq_some_iff, Option.map_eq_some_iff] at read
      obtain ⟨_, _, _, all, rfl⟩ := read
      refine .map fun entry member => ?_
      obtain ⟨_, _, entryRead⟩ := exists_of_mapM_eq_some all entry member
      simp only [Option.map_eq_some_iff] at entryRead
      obtain ⟨_, valueRead, rfl⟩ := entryRead
      exact shape.fits_of_read? valueRead
  | .record fields, _, _, read => by
      simp only [Shape.read?, Option.bind_eq_some_iff, Option.map_eq_some_iff] at read
      obtain ⟨_, _, _, entriesRead, rfl⟩ := read
      exact .record (fields.fits_of_read? entriesRead)

/-- The entries that are read for a record fit its fields. -/
theorem Fields.fits_of_read? : (fields : Fields) → {members : List (String × Json)} →
    {entries : List (String × Datum)} →
    fields.read? members = some entries → fields.Fits entries
  | .nil, _, _, read => by
      simp only [Fields.read?, Option.some.injEq] at read
      subst read
      exact .nil
  | .cons _ .optional shape rest, _, _, read => by
      simp only [Fields.read?] at read
      split at read
      · exact .absent (rest.fits_of_read? read)
      · simp only [Option.pure_def, Option.bind_eq_bind, Option.bind_eq_some_iff,
          Option.some.injEq] at read
        obtain ⟨_, valueRead, _, othersRead, rfl⟩ := read
        exact .present (shape.fits_of_read? valueRead) (rest.fits_of_read? othersRead)
  | .cons _ .defaulted shape rest, _, _, read => by
      simp only [Fields.read?] at read
      split at read
      · simp only [Option.pure_def, Option.bind_eq_bind, Option.bind_eq_some_iff,
          Option.some.injEq] at read
        obtain ⟨_, othersRead, rfl⟩ := read
        exact .present shape.fits_default (rest.fits_of_read? othersRead)
      · simp only [Option.pure_def, Option.bind_eq_bind, Option.bind_eq_some_iff,
          Option.some.injEq] at read
        obtain ⟨_, valueRead, _, othersRead, rfl⟩ := read
        exact .present (shape.fits_of_read? valueRead) (rest.fits_of_read? othersRead)
  | .cons _ .required shape rest, _, _, read => by
      simp only [Fields.read?] at read
      split at read
      · simp at read
      · simp only [Option.pure_def, Option.bind_eq_bind, Option.bind_eq_some_iff,
          Option.some.injEq] at read
        obtain ⟨_, valueRead, _, othersRead, rfl⟩ := read
        exact .present (shape.fits_of_read? valueRead) (rest.fits_of_read? othersRead)
  | .cons _ .implied shape rest, _, _, read => by
      simp only [Fields.read?] at read
      split at read
      · simp only [Option.pure_def, Option.bind_eq_bind, Option.bind_eq_some_iff,
          Option.some.injEq] at read
        obtain ⟨_, othersRead, rfl⟩ := read
        exact .present shape.fits_default (rest.fits_of_read? othersRead)
      · simp only [Option.pure_def, Option.bind_eq_bind, Option.bind_eq_some_iff,
          Option.some.injEq] at read
        obtain ⟨_, valueRead, _, othersRead, rfl⟩ := read
        exact .present (shape.fits_of_read? valueRead) (rest.fits_of_read? othersRead)

end

end ChangeRelay.Schema
