import ChangeRelay.Proofs.Schema.Cut
import ChangeRelay.Schema.Reading

/-!
# Data are read back

A datum that was read is written as a value that is read again, as the same
datum with its times cut.  This needs shapes that are regular: no field is
listed twice, and only an optional field may hold any value at all, for there
alone `null` means that the field is absent and nothing is written of it.

Reading a record looks at nothing but its own fields.  So a record is read back
when each field is, and that a field is missing can be seen again in what was
written.
-/

namespace ChangeRelay.Schema

/-! ## Regular shapes -/

/-- Whether a shape accepts any value. -/
def Shape.isFree : Shape → Bool
  | .free => true
  | _ => false

/-- Whether a shape has no parts. -/
def Shape.isScalar : Shape → Bool
  | .list _ | .map _ | .record _ => false
  | _ => true

/-- The names of the fields of a record. -/
def Fields.names : Fields → List String
  | .nil => []
  | .cons name _ _ rest => name :: rest.names

mutual

/-- Whether every record in a shape is regular. -/
def Shape.isRegular : Shape → Bool
  | .list item => item.isRegular
  | .map value => value.isRegular
  | .record fields => fields.isRegular
  | _ => true

/-- Whether no field is listed twice, and only optional fields accept any value. -/
def Fields.isRegular : Fields → Bool
  | .nil => true
  | .cons name presence shape rest =>
      !rest.names.contains name && (presence == .optional || !shape.isFree) &&
        shape.isRegular && rest.isRegular

end

theorem Fields.isRegular_cons_iff {name : String} {presence : Presence} {shape : Shape}
    {rest : Fields} :
    (Fields.cons name presence shape rest).isRegular = true ↔
      name ∉ rest.names ∧ (presence = .optional ∨ shape.isFree = false) ∧
        shape.isRegular = true ∧ rest.isRegular = true := by
  simp [isRegular, and_assoc]

theorem Fields.Fits.lookup_eq_none : {fields : Fields} → {entries : List (String × Datum)} →
    fields.Fits entries → {name : String} → name ∉ fields.names →
      Datum.lookup name entries = none
  | .nil, _, fits, _, _ => by
      cases fits
      rfl
  | .cons field _ _ _, _, fits, name, unlisted => by
      rw [names, List.mem_cons, not_or] at unlisted
      cases fits with
      | absent others => exact others.lookup_eq_none unlisted.2
      | present here others =>
          rw [Datum.lookup, if_neg (Ne.symm unlisted.1)]
          exact others.lookup_eq_none unlisted.2

/-! ## Scalars -/

theorem readInt?_of_bounds {bits : Nat} {number : Int} (lower : -integerBound bits ≤ number)
    (upper : number < integerBound bits) :
    readInt? bits (.num (.int number)) = some (.int number) := by
  simp [readInt?, Json.int?, lower, upper]

theorem readBelow?_of_bounds {bound number : Int} (lower : 0 ≤ number) (upper : number < bound) :
    readBelow? bound (.num (.int number)) = some (.int number) := by
  simp [readBelow?, Json.int?, lower, upper]

/-- Scalars are read back. -/
theorem Shape.Fits.read?_toJson {shape : Shape} {datum : Datum} (fits : shape.Fits datum)
    (scalar : shape.isScalar = true) : shape.read? datum.toJson = some datum.cut := by
  cases fits with
  | text | flag | free | textAlternative => rfl
  | int32 lower upper | int64 lower upper => exact readInt?_of_bounds lower upper
  | uint16 lower upper => exact readBelow?_of_bounds lower upper
  | intAlternative lower upper =>
      rw [read?, Datum.toJson, readInt?_of_bounds lower upper]
      rfl
  | time precision value =>
      simp [read?, Datum.toJson, Json.str?, Calendar.Instant.ofTimestamp?_toTimestamp, Datum.cut]
  | constant value => simp [read?, Datum.toJson, Datum.cut]
  | list | map | record => cases scalar

/-- Only a shape that accepts any value has data that are written as `null`. -/
theorem Shape.Fits.toJson_ne_null {shape : Shape} {datum : Datum} (fits : shape.Fits datum)
    (strict : shape.isFree = false) : datum.toJson ≠ .null := by
  cases fits with
  | free => cases strict
  | _ => simp [Datum.toJson]

/-! ## Lists and maps -/

theorem Shape.read?_list {item : Shape} {items : List Datum}
    (each : ∀ datum ∈ items, item.read? datum.toJson = some datum.cut) :
    (Shape.list item).read? (Datum.list items).toJson = some (Datum.list items).cut := by
  have all : (Datum.itemsToJson items).mapM item.read? = some (Datum.cutItems items) := by
    induction items with
    | nil => rfl
    | cons first rest ih =>
        have others := ih fun datum member => each datum (by simp [member])
        simp [Datum.itemsToJson, Datum.cutItems, each first (by simp), others]
  simp [read?, Datum.toJson, Json.arr?, Datum.cut, all]

theorem Shape.read?_map {shape : Shape} {entries : List (String × Datum)}
    (each : ∀ entry ∈ entries, shape.read? entry.2.toJson = some entry.2.cut) :
    (Shape.map shape).read? (Datum.record entries).toJson = some (Datum.record entries).cut := by
  have all : ((Datum.entriesToJson entries).mapM fun member =>
      (shape.read? member.2).map (member.1, ·)) = some (Datum.cutEntries entries) := by
    induction entries with
    | nil => rfl
    | cons first rest ih =>
        have others := ih fun entry member => each entry (by simp [member])
        simp [Datum.entriesToJson, Datum.cutEntries, each first (by simp), others]
  simp [read?, Datum.toJson, Json.obj?, Datum.cut, all]

/-! ## Fields -/

/-- What comes of a field that is missing: refusal, or the datum that it then has,
if any. -/
def Shape.readMissing? (shape : Shape) : Presence → Option (Option Datum)
  | .optional => some none
  | .defaulted | .implied => some (some shape.default)
  | .required => none

/-- What comes of a field for which a value was found or not. -/
def Shape.readField? (shape : Shape) (presence : Presence) : Option Json → Option (Option Datum)
  | none => shape.readMissing? presence
  | some value =>
      if value = .null ∧ presence ≠ .implied then shape.readMissing? presence
      else (shape.read? value).map some

theorem presentValue?_of_ne_null {name : String} {members : List (String × Json)} {value : Json}
    (found : Json.lookup name members = some value) (solid : value ≠ .null) :
    presentValue? name members = some value := by
  unfold presentValue?
  rw [found]
  cases value with
  | null => exact absurd rfl solid
  | _ => rfl

/-- A record is read field by field. -/
theorem Fields.read?_cons (name : String) (presence : Presence) (shape : Shape) (rest : Fields)
    (members : List (String × Json)) :
    (Fields.cons name presence shape rest).read? members =
      (shape.readField? presence (Json.lookup name members)).bind fun here =>
        (rest.read? members).bind fun others => some ((here.map (name, ·)).toList ++ others) := by
  cases found : Json.lookup name members with
  | none =>
      cases presence <;>
        simp [read?, presentValue?, found, Shape.readField?, Shape.readMissing?]
  | some value =>
      by_cases null : value = .null
      · subst null
        cases presence <;>
          simp [read?, presentValue?, found, Shape.readField?, Shape.readMissing?, Option.bind_map,
            Function.comp_def]
      · have present := presentValue?_of_ne_null found null
        cases presence <;>
          simp [read?, present, found, Shape.readField?, null, Option.bind_map, Function.comp_def]

/-- An optional field may be absent.  Any other field that is read has its default
value, or a datum that was read from a value. -/
theorem Shape.readField?_eq_some {shape : Shape} {presence : Presence} {found : Option Json}
    {here : Option Datum} (read : shape.readField? presence found = some here) :
    presence = .optional ∧ here = none ∨
      presence ≠ .optional ∧ here = some shape.default ∨
        ∃ value datum, here = some datum ∧ shape.read? value = some datum ∧
          (value = .null → presence = .implied) := by
  have missing (read : shape.readMissing? presence = some here) :
      presence = .optional ∧ here = none ∨ presence ≠ .optional ∧ here = some shape.default := by
    cases presence with
    | optional => exact .inl ⟨rfl, (Option.some.inj read).symm⟩
    | defaulted | implied => exact .inr ⟨nofun, (Option.some.inj read).symm⟩
    | required => cases read
  cases found with
  | none => exact (missing read).imp_right .inl
  | some value =>
      rw [readField?] at read
      split at read
      next => exact (missing read).imp_right .inl
      next solid =>
        obtain ⟨datum, valueRead, rfl⟩ := Option.map_eq_some_iff.mp read
        refine .inr (.inr ⟨value, datum, rfl, valueRead, ?_⟩)
        simpa using solid

theorem Shape.readField?_toJson {shape : Shape} (presence : Presence) {datum : Datum}
    (solid : datum.toJson ≠ .null) (kept : shape.read? datum.toJson = some datum.cut) :
    shape.readField? presence ((some datum).map Datum.toJson) =
      some ((some datum).map Datum.cut) := by
  simp [readField?, solid, kept]

/-- A field is read back if each value and the default value are. -/
theorem Shape.readField?_map_toJson {shape : Shape} {presence : Presence} {found : Option Json}
    {here : Option Datum} (regular : presence = .optional ∨ shape.isFree = false)
    (keepsDefault : shape.read? shape.default.toJson = some shape.default.cut)
    (keeps : ∀ {value datum}, shape.read? value = some datum →
      shape.read? datum.toJson = some datum.cut)
    (read : shape.readField? presence found = some here) :
    shape.readField? presence (here.map Datum.toJson) = some (here.map Datum.cut) := by
  rcases readField?_eq_some read with
    ⟨rfl, rfl⟩ | ⟨needed, rfl⟩ | ⟨value, datum, rfl, valueRead, solid⟩
  · rfl
  · exact readField?_toJson presence
      (shape.fits_default.toJson_ne_null (regular.resolve_left needed)) keepsDefault
  · refine readField?_toJson presence ?_ (keeps valueRead)
    cases shape with
    | free =>
        obtain rfl : presence = .optional := regular.resolve_right nofun
        obtain rfl := Option.some.inj valueRead
        exact fun null => nomatch solid null
    | _ => exact (Shape.fits_of_read? _ valueRead).toJson_ne_null rfl

/-! ## Records -/

/-- Whether entries are read back from any members among which the fields find the
same as in what is written of the entries. -/
def Fields.Keeps (fields : Fields) (entries : List (String × Datum)) : Prop :=
  ∀ members : List (String × Json),
    (∀ name ∈ fields.names,
      Json.lookup name members = (Datum.lookup name entries).map Datum.toJson) →
    fields.read? members = some (Datum.cutEntries entries)

namespace Fields.Keeps

theorem nil : Fields.nil.Keeps [] :=
  fun _ _ => rfl

/-- One field more, which may be absent. -/
theorem cons {name : String} {presence : Presence} {shape : Shape} {rest : Fields}
    {others : List (String × Datum)} (keeps : rest.Keeps others) (fits : rest.Fits others)
    (fresh : name ∉ rest.names) (here : Option Datum)
    (field : shape.readField? presence (here.map Datum.toJson) = some (here.map Datum.cut)) :
    (Fields.cons name presence shape rest).Keeps ((here.map (name, ·)).toList ++ others) := by
  intro members agree
  have found : Json.lookup name members = here.map Datum.toJson := by
    rw [agree name List.mem_cons_self]
    cases here with
    | none => exact congrArg _ (fits.lookup_eq_none fresh)
    | some datum => simp [Datum.lookup]
  have skipped : ∀ other ∈ rest.names,
      Json.lookup other members = (Datum.lookup other others).map Datum.toJson := by
    intro other member
    rw [agree other (List.mem_cons_of_mem name member)]
    cases here with
    | none => rfl
    | some datum => simp [Datum.lookup, show name ≠ other from fun same => fresh (same ▸ member)]
  rw [read?_cons, found, field, keeps members skipped]
  cases here <;> rfl

end Fields.Keeps

theorem Shape.read?_record {fields : Fields} {entries : List (String × Datum)}
    (keeps : fields.Keeps entries) :
    (Shape.record fields).read? (Datum.record entries).toJson =
      some (Datum.record entries).cut := by
  have all : fields.read? (Datum.entriesToJson entries) = some (Datum.cutEntries entries) :=
    keeps _ fun name _ => Datum.lookup_entriesToJson name entries
  simp [read?, Datum.toJson, Json.obj?, Datum.cut, all]

/-! ## All shapes -/

mutual

/-- Default values are read back. -/
theorem Shape.read?_toJson_default : (shape : Shape) → shape.isRegular = true →
    shape.read? shape.default.toJson = some shape.default.cut
  | .text, _ | .flag, _ | .int32, _ | .int64, _ | .uint16, _ | .intOrText, _ | .time _, _
  | .free, _ | .constant _, _ => (Shape.fits_default _).read?_toJson rfl
  | .list _, _ => Shape.read?_list (by simp)
  | .map _, _ => Shape.read?_map (by simp)
  | .record fields, regular => Shape.read?_record (fields.keeps_default regular)

theorem Fields.keeps_default : (fields : Fields) → fields.isRegular = true →
    fields.Keeps fields.default
  | .nil, _ => .nil
  | .cons name .optional shape rest, regular => by
      obtain ⟨fresh, -, -, others⟩ := Fields.isRegular_cons_iff.mp regular
      exact (rest.keeps_default others).cons rest.fits_default fresh none rfl
  | .cons name .defaulted shape rest, regular
  | .cons name .required shape rest, regular
  | .cons name .implied shape rest, regular => by
      obtain ⟨fresh, strict, here, others⟩ := Fields.isRegular_cons_iff.mp regular
      exact (rest.keeps_default others).cons rest.fits_default fresh (some shape.default)
        (Shape.readField?_toJson _ (shape.fits_default.toJson_ne_null (strict.resolve_left nofun))
          (shape.read?_toJson_default here))

end

mutual

/-- What was read is read back, cut to what is written. -/
theorem Shape.read?_toJson : (shape : Shape) → shape.isRegular = true → {value : Json} →
    {datum : Datum} → shape.read? value = some datum → shape.read? datum.toJson = some datum.cut
  | .text, _, _, _, read | .flag, _, _, _, read | .int32, _, _, _, read | .int64, _, _, _, read
  | .uint16, _, _, _, read | .intOrText, _, _, _, read | .time _, _, _, _, read
  | .free, _, _, _, read | .constant _, _, _, _, read =>
      (Shape.fits_of_read? _ read).read?_toJson rfl
  | .list item, regular, _, _, read => by
      simp only [Shape.read?, Option.bind_eq_some_iff, Option.map_eq_some_iff] at read
      obtain ⟨_, _, _, all, rfl⟩ := read
      refine Shape.read?_list fun datum member => ?_
      obtain ⟨_, _, itemRead⟩ := exists_of_mapM_eq_some all datum member
      exact item.read?_toJson regular itemRead
  | .map shape, regular, _, _, read => by
      simp only [Shape.read?, Option.bind_eq_some_iff, Option.map_eq_some_iff] at read
      obtain ⟨_, _, _, all, rfl⟩ := read
      refine Shape.read?_map fun entry member => ?_
      obtain ⟨_, _, entryRead⟩ := exists_of_mapM_eq_some all entry member
      obtain ⟨_, valueRead, rfl⟩ := Option.map_eq_some_iff.mp entryRead
      exact shape.read?_toJson regular valueRead
  | .record fields, regular, _, _, read => by
      simp only [Shape.read?, Option.bind_eq_some_iff, Option.map_eq_some_iff] at read
      obtain ⟨_, _, _, entriesRead, rfl⟩ := read
      exact Shape.read?_record (fields.keeps_of_read? regular entriesRead)

theorem Fields.keeps_of_read? : (fields : Fields) → fields.isRegular = true →
    {members : List (String × Json)} → {entries : List (String × Datum)} →
    fields.read? members = some entries → fields.Keeps entries
  | .nil, _, _, _, read => by
      obtain rfl := Option.some.inj read
      exact .nil
  | .cons name presence shape rest, regular, _, _, read => by
      obtain ⟨fresh, strict, hereRegular, othersRegular⟩ := Fields.isRegular_cons_iff.mp regular
      simp only [Fields.read?_cons, Option.bind_eq_some_iff, Option.some.injEq] at read
      obtain ⟨here, hereRead, others, othersRead, rfl⟩ := read
      exact (rest.keeps_of_read? othersRegular othersRead).cons (rest.fits_of_read? othersRead)
        fresh
        here (Shape.readField?_map_toJson strict (shape.read?_toJson_default hereRegular)
          (shape.read?_toJson hereRegular) hereRead)

end

end ChangeRelay.Schema
