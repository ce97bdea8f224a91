import ChangeRelay.Proofs.Admission.Significance
import ChangeRelay.Proofs.Snapshot.NormalForm

/-!
# Snapshots tell which object they show

An object that is kept as JSON still shows its kind, and the texts in its metadata
that make up its key.  This is so because the path to such a text leads through
records only, and what is written of a record keeps its fields.
-/

namespace ChangeRelay

namespace Schema

/-! ## Paths that lead to a text -/

/-- Whether a path of fields leads through records to a text. -/
def Shape.leadsToText : List String → Shape → Bool
  | [], .text | [], .constant _ => true
  | name :: rest, .record fields => (fields.find? name).any fun field => field.2.leadsToText rest
  | _, _ => false

/-- A field that is present has the shape that is listed for it. -/
theorem Fields.Fits.exists_find?_eq : {fields : Fields} → {entries : List (String × Datum)} →
    fields.Fits entries → fields.isRegular = true → {name : String} → {datum : Datum} →
      Datum.lookup name entries = some datum →
        ∃ presence shape, fields.find? name = some (presence, shape) ∧
          shape.isRegular = true ∧ shape.Fits datum
  | .nil, _, fits, _, _, _, found => by
      cases fits
      cases found
  | .cons field presence shape rest, _, fits, regular, name, datum, found => by
      obtain ⟨fresh, -, here, others⟩ := Fields.isRegular_cons_iff.mp regular
      rw [Fields.find?]
      cases fits with
      | absent restFits =>
          -- The name is found among the other fields, so it is not the one of this field.
          have different : field ≠ name := by
            rintro rfl
            rw [restFits.lookup_eq_none fresh] at found
            cases found
          rw [if_neg different]
          exact restFits.exists_find?_eq others found
      | present valueFits restFits =>
          rw [Datum.lookup] at found
          split at found
          next same =>
            cases found
            exact ⟨presence, shape, if_pos same, here, valueFits⟩
          next different =>
            rw [if_neg different]
            exact restFits.exists_find?_eq others found

/-- What is written of a datum shows the same text at the end of such a path. -/
theorem Shape.Fits.textAt?_toJson {path : List String} {shape : Shape} {datum : Datum}
    (fits : shape.Fits datum) (regular : shape.isRegular = true)
    (leads : shape.leadsToText path = true) :
    datum.toJson.textAt? path = (datum.path? path).bind Datum.text? := by
  induction path generalizing shape datum with
  | nil =>
      cases fits with
      | text | constant => rfl
      | _ => cases leads
  | cons name rest ih =>
      cases fits with
      | record fits =>
          rename_i fields entries
          rw [leadsToText] at leads
          rw [Json.textAt?, Datum.toJson, Json.path?, Json.get?, Datum.lookup_entriesToJson,
            Datum.path?_cons, Datum.get?]
          cases found : Datum.lookup name entries with
          | none => rfl
          | some value =>
              obtain ⟨presence, here, listed, hereRegular, hereFits⟩ :=
                fits.exists_find?_eq regular found
              rw [listed] at leads
              exact ih hereFits hereRegular leads
      | _ => cases leads

end Schema

open Schema

/-! ## Objects -/

namespace Object

variable {resource : Resource}

/-- The metadata by which objects are told apart. -/
def identifiers : List String :=
  ["generateName", "name", "namespace", "uid"]

theorem metadataText?_eq (name : String) (object : Object resource) :
    object.metadataText? name = (object.datum.path? ["metadata", name]).bind Datum.text? := by
  rw [metadataText?, Datum.path?_cons, Option.bind_assoc]
  refine congrArg _ (funext fun part => ?_)
  rw [Datum.textField?, Datum.path?_cons, Option.bind_assoc]
  cases part.get? name <;> rfl

/-- What is written of an object shows the texts that identify it. -/
theorem textAt?_metadata {name : String} (identifies : name ∈ identifiers)
    (object : Object resource) :
    object.toJson.textAt? ["metadata", name] = object.metadataText? name := by
  have leads : ∀ name ∈ identifiers, resource.shape.leadsToText ["metadata", name] = true := by
    cases resource <;> decide
  rw [metadataText?_eq]
  exact object.fits.textAt?_toJson resource.isRegular_shape (leads name identifies)

end Object

/-! ## Snapshots -/

namespace Snapshot

variable {resource : Resource}

theorem kind?_ofObject (object : Object resource) :
    (ofObject object).kind? = some resource.kind := by
  cases resource with
  | pods | jobs | events | eventsV1 => rfl
  | deployments | daemonSets | statefulSets | services | nodes => exact object.textAt?_kind

theorem name?_ofObject (object : Object resource) : (ofObject object).name? = object.name? := by
  cases resource with
  | pods | jobs | events | eventsV1 => rfl
  | deployments | daemonSets | statefulSets | services | nodes =>
      exact object.textAt?_metadata (by decide)

theorem namespace?_ofObject (object : Object resource) :
    (ofObject object).namespace? = object.namespace? := by
  cases resource with
  | pods | jobs | events | eventsV1 => rfl
  | deployments | daemonSets | statefulSets | services | nodes =>
      exact object.textAt?_metadata (by decide)

/-- A text in the metadata that a snapshot shows. -/
def metadataText? (name : String) (snapshot : Snapshot) : Option String :=
  snapshot.toJson.textAt? ["metadata", name]

/-- The key of the object that a snapshot shows: its unique id, or else namespace
and name, or what the name is to be generated from. -/
def key (snapshot : Snapshot) : String :=
  (snapshot.metadataText? "uid").getD <|
    (snapshot.metadataText? "namespace").getD "" ++ "/" ++
      ((snapshot.metadataText? "name").or (snapshot.metadataText? "generateName")).getD ""

theorem metadataText?_ofObject {name : String} (identifies : name ∈ Object.identifiers)
    (object : Object resource) :
    (ofObject object).metadataText? name = object.metadataText? name := by
  rw [metadataText?, toJson_ofObject, object.textAt?_metadata identifies]

/-- A snapshot shows the key of its object. -/
theorem key_ofObject (object : Object resource) : (ofObject object).key = object.key := by
  have shown : ∀ name ∈ Object.identifiers,
      (ofObject object).metadataText? name = object.metadataText? name :=
    fun _ identifies => metadataText?_ofObject identifies object
  rw [key, shown "uid" (by decide), shown "namespace" (by decide), shown "name" (by decide),
    shown "generateName" (by decide)]
  rfl

end Snapshot

end ChangeRelay
