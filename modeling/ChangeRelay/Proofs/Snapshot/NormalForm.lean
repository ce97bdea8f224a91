import ChangeRelay.Proofs.Schema.RoundTrip
import ChangeRelay.Snapshot

/-!
# The JSON form of a snapshot is a normal form

A payload that is classified and written is classified in the same way again, and
written as the same value.  What its kind cannot read is kept as it is.  What was
read says in its constant fields by which resource, and is read back cut to what
was written; so nothing changes at all if its times were whole.
-/

namespace ChangeRelay

open Calendar (Precision Instant)
open Schema (Datum Fields Shape)

/-! ## Objects -/

theorem Resource.isRegular_shape (resource : Resource) : resource.shape.isRegular = true := by
  cases resource <;> decide

/-- The objects of a resource are records that show its API version and its kind. -/
theorem Resource.exists_shape_eq (resource : Resource) :
    ∃ fields : Fields, resource.shape = .record fields ∧
      fields.find? "apiVersion" = some (.implied, .constant resource.apiVersion) ∧
      fields.find? "kind" = some (.implied, .constant resource.kind) := by
  cases resource <;> exact ⟨_, rfl, rfl, rfl⟩

/-- A constant field holds its text. -/
theorem Schema.Fields.Fits.lookup_of_constant {name text : String} : {fields : Fields} →
    {entries : List (String × Datum)} → fields.Fits entries →
      fields.find? name = some (.implied, .constant text) →
        Datum.lookup name entries = some (.text text)
  | .nil, _, _, found => by cases found
  | .cons field presence shape rest, _, fits, found => by
      rw [Fields.find?] at found
      split at found
      next same =>
        obtain ⟨rfl, rfl⟩ := Prod.mk.inj (Option.some.inj found)
        cases fits with
        | present here others =>
            cases here
            rw [Datum.lookup, if_pos same]
      next different =>
        cases fits with
        | absent others => exact others.lookup_of_constant found
        | present here others =>
            rw [Datum.lookup, if_neg different]
            exact others.lookup_of_constant found

namespace Object

variable {resource : Resource}

theorem read?_eq_some_iff {value : Json} {object : Object resource} :
    read? resource value = some object ↔ resource.shape.read? value = some object.datum := by
  unfold read?
  split
  next datum read => simp [read, Object.ext_iff]
  next refused => simp [refused]

/-- What was read is read back, cut to what is written. -/
theorem read?_toJson {value : Json} {object : Object resource}
    (read : read? resource value = some object) :
    ∃ again, read? resource object.toJson = some again ∧ again.datum = object.datum.cut := by
  have datumRead :=
    resource.shape.read?_toJson resource.isRegular_shape (read?_eq_some_iff.mp read)
  exact ⟨⟨object.datum.cut, resource.shape.fits_of_read? datumRead⟩,
    read?_eq_some_iff.mpr datumRead, rfl⟩

/-- What is written of an object shows its constant fields. -/
theorem textAt?_of_constant {name text : String} {fields : Fields}
    (isRecord : resource.shape = .record fields)
    (found : fields.find? name = some (.implied, .constant text)) (object : Object resource) :
    object.toJson.textAt? [name] = some text := by
  have fits := object.fits
  rw [isRecord] at fits
  rw [toJson]
  generalize object.datum = datum at fits
  cases fits with
  | record fits =>
      simp [Datum.toJson, Json.textAt?, Json.path?, Json.get?, Datum.lookup_entriesToJson,
        fits.lookup_of_constant found, Json.str?]

theorem textAt?_apiVersion (object : Object resource) :
    object.toJson.textAt? ["apiVersion"] = some resource.apiVersion := by
  obtain ⟨fields, isRecord, found, -⟩ := resource.exists_shape_eq
  exact object.textAt?_of_constant isRecord found

theorem textAt?_kind (object : Object resource) :
    object.toJson.textAt? ["kind"] = some resource.kind := by
  obtain ⟨fields, isRecord, -, found⟩ := resource.exists_shape_eq
  exact object.textAt?_of_constant isRecord found

end Object

/-! ## Snapshots -/

namespace Snapshot

variable {resource : Resource}

/-- The resource with whose types a snapshot is kept, if it is kept with types. -/
def resource? : Snapshot → Option Resource
  | coreEvent _ => some .events
  | eventsV1 _ => some .eventsV1
  | job _ => some .jobs
  | pod _ => some .pods
  | other _ => none

/-- The times in a snapshot, each with its precision. -/
def times : Snapshot → List (Precision × Instant)
  | coreEvent object => object.datum.times
  | eventsV1 object => object.datum.times
  | job object => object.datum.times
  | pod object => object.datum.times
  | other _ => []

/-- The value that a payload of a kind becomes. -/
def normalize (kind : String) (value : Json) : Json :=
  (classify kind value).1.toJson

@[simp]
theorem toJson_ofObject (object : Object resource) : (ofObject object).toJson = object.toJson := by
  cases resource <;> rfl

theorem resource?_ofObject (first second : Object resource) :
    (ofObject first).resource? = (ofObject second).resource? := by
  cases resource <;> rfl

/-- If its times are whole, an object that is read back makes the same snapshot. -/
theorem ofObject_eq_of_cut {object again : Object resource}
    (same : again.datum = object.datum.cut) (whole : Datum.AllWhole (ofObject object).times) :
    ofObject again = ofObject object := by
  cases resource with
  | events | eventsV1 | jobs | pods =>
      rw [Object.ext (same.trans (object.datum.cut_of_allWhole whole))]
  | deployments | daemonSets | statefulSets | services | nodes =>
      simp only [ofObject, Object.toJson, same, Datum.toJson_cut]

/-- What is written of an object says whether it comes from the events API. -/
theorem isFromEventsApi_toJson (object : Object resource) :
    isFromEventsApi object.toJson = decide (resource = .eventsV1) := by
  rw [isFromEventsApi, object.textAt?_apiVersion]
  cases resource <;> decide

theorem typedResource?_toJson {kind : String} {value : Json}
    (typed : typedResource? kind value = some resource) (object : Object resource) :
    typedResource? kind object.toJson = some resource := by
  unfold typedResource? at typed ⊢
  rw [isFromEventsApi_toJson]
  split at typed
  next event =>
    split at typed <;> obtain rfl := Option.some.inj typed <;> rw [if_pos event] <;> rfl
  next different =>
    rw [if_neg different]
    exact typed

theorem classify_of_read {kind : String} {value : Json} {object : Object resource}
    (typed : typedResource? kind value = some resource)
    (read : Object.read? resource value = some object) :
    (classify kind value).1 = ofObject object := by
  simp [classify, typed, read]

/-- A snapshot is that of an object that was read, or it is the payload itself. -/
theorem classify_cases (kind : String) (value : Json) :
    (∃ (resource : Resource) (object : Object resource),
      typedResource? kind value = some resource ∧ Object.read? resource value = some object) ∨
      (classify kind value).1 = .other value := by
  cases typed : typedResource? kind value with
  | none => exact .inr (by simp [classify, typed])
  | some resource =>
      cases read : Object.read? resource value with
      | none => exact .inr (by simp [classify, typed, read])
      | some object => exact .inl ⟨resource, object, rfl, read⟩

/-- Normalizing a payload again changes nothing.  A normal payload is kept with the
same types as the payload from which it comes, and its snapshot is the same if
every time is whole. -/
theorem normal_form_is_stable (kind : String) (value : Json) :
    normalize kind (normalize kind value) = normalize kind value ∧
      (classify kind (normalize kind value)).1.resource? = (classify kind value).1.resource? ∧
      (Datum.AllWhole (classify kind value).1.times →
        (classify kind (normalize kind value)).1 = (classify kind value).1) := by
  rcases classify_cases kind value with ⟨resource, object, typed, read⟩ | kept
  · obtain ⟨again, readAgain, cut⟩ := object.read?_toJson read
    have classified := classify_of_read typed read
    have classifiedAgain := classify_of_read (typedResource?_toJson typed object) readAgain
    have normal : normalize kind value = object.toJson := by
      rw [normalize, classified, toJson_ofObject]
    have normalAgain : normalize kind object.toJson = object.toJson := by
      rw [normalize, classifiedAgain, toJson_ofObject, Object.toJson, cut, Datum.toJson_cut]
      rfl
    rw [normal, normalAgain, classifiedAgain, classified]
    exact ⟨rfl, resource?_ofObject again object, ofObject_eq_of_cut cut⟩
  · have normal : normalize kind value = value := by
      rw [normalize, kept]
      rfl
    rw [normal, normal]
    exact ⟨rfl, rfl, fun _ => rfl⟩

/-- An Event object with an unknown field and two times, of which one is local. -/
def samplePayload : Json :=
  .obj [("apiVersion", .str "events.k8s.io/v1"),
    ("deprecatedFirstTimestamp", .str "2024-05-01T14:00:00+02:00"),
    ("eventTime", .str "2024-05-01T12:00:00.123456Z"), ("unknown", .null)]

/-- Both times are whole, so that writing the object changes the payload and not the
snapshot. -/
theorem normal_form_is_stable_samplePayload :
    (classify "Event" samplePayload).1.times.length = 2 ∧
      Datum.AllWhole (classify "Event" samplePayload).1.times ∧
      normalize "Event" samplePayload ≠ samplePayload ∧
      (classify "Event" (normalize "Event" samplePayload)).1 =
        (classify "Event" samplePayload).1 := by
  have whole : Datum.AllWhole (classify "Event" samplePayload).1.times := by decide +kernel
  exact ⟨by decide +kernel, whole, by decide +kernel,
    (normal_form_is_stable "Event" samplePayload).2.2 whole⟩

end Snapshot

end ChangeRelay
