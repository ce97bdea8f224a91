import ChangeRelay.Proofs.Snapshot.Identity

/-!
# Payloads and snapshots agree on identity

The name and the namespace of an object can be looked up in its payload and in the snapshot
that was read from it.  Both find the same texts, whatever the payload looks like on the way:
reading fills in records that are missing, but never a text by which an object is identified.
What is written of a snapshot is a payload again, so it agrees with the snapshot as well.
-/

namespace ChangeRelay

namespace Json

theorem textAt?_cons (key : String) (rest : List String) (value : Json) :
    value.textAt? (key :: rest) = (value.get? key).bind (textAt? rest) := by
  simp only [textAt?, path?, Option.bind_assoc]
  rfl

@[simp]
theorem textAt?_null (path : List String) : null.textAt? path = none := by
  cases path <;> rfl

end Json

namespace Schema

/-! ## Texts that reading does not fill in -/

/-- Whether a path of fields leads to a text that stays absent where a payload lacks it.
The records on the way may be filled in. -/
def Shape.keepsText : List String → Shape → Bool
  | [], .text => true
  | name :: rest, .record fields =>
      (fields.find? name).any fun field =>
        (field.1 == .optional || !rest.isEmpty) && field.2.keepsText rest
  | _, _ => false

theorem Shape.keepsText_cons_iff {name : String} {rest : List String} {shape : Shape} :
    shape.keepsText (name :: rest) = true ↔
      ∃ fields presence part, shape = .record fields ∧
        fields.find? name = some (presence, part) ∧
          (presence = .optional ∨ rest ≠ []) ∧ part.keepsText rest = true := by
  cases shape with
  | record fields => simp [keepsText, Option.any_eq_true]
  | _ => simp [keepsText]

theorem Fields.isRegular_of_find? : {fields : Fields} → fields.isRegular = true →
    {name : String} → {presence : Presence} → {shape : Shape} →
      fields.find? name = some (presence, shape) → shape.isRegular = true
  | .nil, _, _, _, _, listed => by cases listed
  | .cons field _ _ rest, regular, name, _, _, listed => by
      obtain ⟨-, -, here, others⟩ := Fields.isRegular_cons_iff.mp regular
      rw [Fields.find?] at listed
      split at listed
      next same =>
        obtain ⟨rfl, rfl⟩ := Prod.mk.inj (Option.some.inj listed)
        exact here
      next different => exact isRegular_of_find? others listed

/-- Looking through a field that may be absent, and then through the other fields. -/
theorem Datum.lookup_field {field : String} {others : List (String × Datum)}
    (fresh : lookup field others = none) (here : Option Datum) (name : String) :
    lookup name ((here.map (field, ·)).toList ++ others) =
      if field = name then here else lookup name others := by
  by_cases same : field = name
  · subst same
    cases here <;> simp [lookup, fresh]
  · cases here <;> simp [lookup, same]

/-- In a record that is filled in, an optional field is absent, and any other field has its
default value. -/
theorem Fields.lookup_default : {fields : Fields} → fields.isRegular = true →
    {name : String} → {presence : Presence} → {shape : Shape} →
      fields.find? name = some (presence, shape) →
        Datum.lookup name fields.default =
          if presence = .optional then none else some shape.default
  | .nil, _, _, _, _, listed => by cases listed
  | .cons field presence shape rest, regular, name, _, _, listed => by
      obtain ⟨fresh, -, -, others⟩ := Fields.isRegular_cons_iff.mp regular
      have filledIn : (Fields.cons field presence shape rest).default =
          ((if presence = .optional then none else some shape.default).map (field, ·)).toList ++
            rest.default := by
        cases presence <;> rfl
      rw [filledIn, Datum.lookup_field (rest.fits_default.lookup_eq_none fresh)]
      rw [Fields.find?] at listed
      split at listed
      next same =>
        obtain ⟨rfl, rfl⟩ := Prod.mk.inj (Option.some.inj listed)
        rw [if_pos same]
      next different =>
        rw [if_neg different]
        exact lookup_default others listed

/-- What is read for a field of a record comes from the member of its name alone. -/
theorem Fields.lookup_of_read? : {fields : Fields} → fields.isRegular = true →
    {members : List (String × Json)} → {entries : List (String × Datum)} →
      fields.read? members = some entries → {name : String} → {presence : Presence} →
        {shape : Shape} → fields.find? name = some (presence, shape) →
          shape.readField? presence (Json.lookup name members) = some (Datum.lookup name entries)
  | .nil, _, _, _, _, _, _, _, listed => by cases listed
  | .cons field _ _ rest, regular, members, _, read, name, _, _, listed => by
      obtain ⟨fresh, -, -, othersRegular⟩ := Fields.isRegular_cons_iff.mp regular
      simp only [Fields.read?_cons, Option.bind_eq_some_iff, Option.some.injEq] at read
      obtain ⟨here, hereRead, others, othersRead, rfl⟩ := read
      rw [Datum.lookup_field ((rest.fits_of_read? othersRead).lookup_eq_none fresh)]
      rw [Fields.find?] at listed
      split at listed
      next same =>
        obtain ⟨rfl, rfl⟩ := Prod.mk.inj (Option.some.inj listed)
        rw [if_pos same, ← same]
        exact hereRead
      next different =>
        rw [if_neg different]
        exact lookup_of_read? othersRegular othersRead listed

/-- A record that is filled in shows no such text. -/
theorem Shape.path?_default {name : String} {rest : List String} {shape : Shape}
    (regular : shape.isRegular = true) (keeps : shape.keepsText (name :: rest) = true) :
    (shape.default.path? (name :: rest)).bind Datum.text? = none := by
  induction rest generalizing name shape with
  | nil =>
      obtain ⟨fields, presence, part, rfl, listed, optional, -⟩ := keepsText_cons_iff.mp keeps
      obtain rfl := optional.resolve_right (· rfl)
      have absent := Fields.lookup_default regular listed
      simp [Shape.default, Datum.path?_cons, Datum.get?, absent]
  | cons second rest ih =>
      obtain ⟨fields, presence, part, rfl, listed, -, keepsPart⟩ := keepsText_cons_iff.mp keeps
      rw [Shape.default, Datum.path?_cons, Datum.get?, Fields.lookup_default regular listed]
      split
      · rfl
      · exact ih (Fields.isRegular_of_find? regular listed) keepsPart

/-- Nor does a field that is missing. -/
theorem Shape.path?_missing {path : List String} {presence : Presence} {shape : Shape}
    {here : Option Datum} (regular : shape.isRegular = true) (keeps : shape.keepsText path = true)
    (absent : presence = .optional ∨ path ≠ [])
    (missing : shape.readMissing? presence = some here) :
    (here.bind (Datum.path? path)).bind Datum.text? = none := by
  cases presence with
  | optional =>
      cases missing
      rfl
  | required => cases missing
  | defaulted | implied =>
      obtain rfl := Option.some.inj missing
      cases path with
      | nil =>
          rcases absent with isOptional | notEmpty
          · cases isOptional
          · exact absurd rfl notEmpty
      | cons name rest => exact path?_default regular keeps

/-- What is read for a field of a payload comes from the member of its name. -/
theorem Shape.get?_of_read? {fields : Fields} {value : Json} {datum : Datum}
    (regular : fields.isRegular = true) (read : (Shape.record fields).read? value = some datum)
    {name : String} {presence : Presence} {part : Shape}
    (listed : fields.find? name = some (presence, part)) :
    part.readField? presence (value.get? name) = some (datum.get? name) := by
  simp only [Shape.read?, Option.bind_eq_some_iff, Option.map_eq_some_iff] at read
  obtain ⟨members, isObject, entries, entriesRead, rfl⟩ := read
  have lookedUp : value.get? name = Json.lookup name members := by
    cases value <;> cases isObject
    rfl
  rw [lookedUp]
  exact Fields.lookup_of_read? regular entriesRead listed

/-- What is read of a payload shows the same text at the end of such a path. -/
theorem Shape.textAt?_of_read? {path : List String} {shape : Shape} {value : Json} {datum : Datum}
    (regular : shape.isRegular = true) (keeps : shape.keepsText path = true)
    (read : shape.read? value = some datum) :
    value.textAt? path = (datum.path? path).bind Datum.text? := by
  induction path generalizing shape value datum with
  | nil =>
      cases shape with
      | text =>
          obtain ⟨text, found, rfl⟩ := Option.map_eq_some_iff.mp read
          exact found
      | _ => cases keeps
  | cons name rest ih =>
      obtain ⟨fields, presence, part, rfl, listed, absent, keepsPart⟩ :=
        keepsText_cons_iff.mp keeps
      have partRegular := Fields.isRegular_of_find? regular listed
      have fieldRead := get?_of_read? regular read listed
      rw [Json.textAt?_cons, Datum.path?_cons]
      -- The member is missing, it is null and counts as missing, or it is read.
      cases found : value.get? name with
      | none =>
          rw [found, readField?] at fieldRead
          exact (path?_missing partRegular keepsPart absent fieldRead).symm
      | some member =>
          rw [found, readField?] at fieldRead
          split at fieldRead
          next isNull =>
            rw [isNull.1, path?_missing partRegular keepsPart absent fieldRead]
            exact Json.textAt?_null rest
          next =>
            obtain ⟨part, memberRead, same⟩ := Option.map_eq_some_iff.mp fieldRead
            rw [← same]
            exact ih partRegular keepsPart memberRead

end Schema

/-! ## Objects and their payloads -/

namespace Object

variable {resource : Resource} {value : Json} {object : Object resource}

/-- The payload that an object was read from shows the texts that identify the object. -/
theorem textAt?_of_read? (read : read? resource value = some object) {name : String}
    (identifies : name ∈ identifiers) :
    value.textAt? ["metadata", name] = object.metadataText? name := by
  have keeps : ∀ name ∈ identifiers, resource.shape.keepsText ["metadata", name] = true := by
    cases resource <;> decide
  rw [metadataText?_eq]
  exact Schema.Shape.textAt?_of_read? resource.isRegular_shape (keeps name identifies)
    (read?_eq_some_iff.mp read)

/-- A payload that carries a kind is read only as an object of this kind. -/
theorem textAt?_kind_of_read? (read : read? resource value = some object)
    (carried : (value.get? "kind").isSome = true) :
    value.textAt? ["kind"] = some resource.kind := by
  obtain ⟨fields, isRecord, -, listed⟩ := resource.exists_shape_eq
  have regular := resource.isRegular_shape
  have datumRead := read?_eq_some_iff.mp read
  rw [isRecord] at regular datumRead
  obtain ⟨kind, found⟩ := Option.isSome_iff_exists.mp carried
  have kindRead := Schema.Shape.get?_of_read? regular datumRead listed
  rw [found, Schema.Shape.readField?, if_neg (fun null => null.2 rfl)] at kindRead
  obtain ⟨datum, isConstant, -⟩ := Option.map_eq_some_iff.mp kindRead
  simp only [Schema.Shape.read?, Option.ite_none_right_eq_some] at isConstant
  rw [Json.textAt?_cons, found, isConstant.1]
  rfl

end Object

/-! ## Snapshots and their payloads -/

namespace Snapshot

variable {resource : Resource}

/-- A payload that is kept as it is shows the name and the namespace of a snapshot, and its
kind if the payload carries a kind. -/
structure ShownBy (payload : Json) (snapshot : Snapshot) : Prop where
  name : (other payload).name? = snapshot.name?
  namespaceName : (other payload).namespace? = snapshot.namespace?
  kind : (payload.get? "kind").isSome = true → (other payload).kind? = snapshot.kind?

theorem textAt?_name_toJson (snapshot : Snapshot) :
    snapshot.toJson.textAt? ["metadata", "name"] = snapshot.name? := by
  cases snapshot with
  | other => rfl
  | coreEvent object | eventsV1 object | job object | pod object =>
      exact object.textAt?_metadata (by decide)

theorem textAt?_namespace_toJson (snapshot : Snapshot) :
    snapshot.toJson.textAt? ["metadata", "namespace"] = snapshot.namespace? := by
  cases snapshot with
  | other => rfl
  | coreEvent object | eventsV1 object | job object | pod object =>
      exact object.textAt?_metadata (by decide)

theorem textAt?_kind_toJson (snapshot : Snapshot) :
    snapshot.toJson.textAt? ["kind"] = snapshot.kind? := by
  cases snapshot with
  | other => rfl
  | coreEvent object | eventsV1 object | job object | pod object => exact object.textAt?_kind

/-- What is written of a snapshot shows its identity. -/
theorem shownBy_toJson (snapshot : Snapshot) : ShownBy snapshot.toJson snapshot :=
  ⟨snapshot.textAt?_name_toJson, snapshot.textAt?_namespace_toJson,
    fun _ => snapshot.textAt?_kind_toJson⟩

/-- The payload that an object was read from shows its identity. -/
theorem shownBy_of_read? {value : Json} {object : Object resource}
    (read : Object.read? resource value = some object) : ShownBy value (ofObject object) where
  name := (Object.textAt?_of_read? read (by decide)).trans (name?_ofObject object).symm
  namespaceName :=
    (Object.textAt?_of_read? read (by decide)).trans (namespace?_ofObject object).symm
  kind carried := (Object.textAt?_kind_of_read? read carried).trans (kind?_ofObject object).symm

theorem shownBy_classify (kind : String) (value : Json) :
    ShownBy value (classify kind value).1 := by
  rcases classify_cases kind value with ⟨resource, object, typed, read⟩ | kept
  · rw [classify_of_read typed read]
    exact shownBy_of_read? read
  · rw [kept]
    exact ⟨rfl, rfl, fun _ => rfl⟩

/-- A payload, the snapshot that it is classified as, and what is written of this snapshot have
one identity.  An object of any resource has the name and the namespace that its metadata
says, and the kind of its resource, also where its snapshot is kept as JSON. -/
theorem typed_and_opaque_agree_on_identity :
    (∀ (kind : String) (value : Json),
      ShownBy value (classify kind value).1 ∧
        ShownBy (classify kind value).1.toJson (classify kind value).1 ∧
        (other (classify kind value).1.toJson).kind? = (classify kind value).1.kind?) ∧
    ∀ (resource : Resource) (value : Json) (object : Object resource),
      Object.read? resource value = some object →
        ShownBy value (ofObject object) ∧
          ShownBy object.toJson (ofObject object) ∧
          (ofObject object).name? = object.name? ∧
          (ofObject object).namespace? = object.namespace? ∧
          (ofObject object).kind? = some resource.kind := by
  constructor
  · intro kind value
    exact ⟨shownBy_classify kind value, shownBy_toJson _, textAt?_kind_toJson _⟩
  · intro resource value object read
    have written := shownBy_toJson (ofObject object)
    rw [toJson_ofObject] at written
    exact ⟨shownBy_of_read? read, written, name?_ofObject object, namespace?_ofObject object,
      kind?_ofObject object⟩

/-- A Deployment without a kind and with a namespace that is null. -/
def unnamedKind : Json :=
  .obj [("apiVersion", .str "apps/v1"),
    ("metadata", .obj [("name", .str "web"), ("namespace", .null), ("uid", .str "u-1")])]

/-- A Pod without a kind. -/
def untypedPod : Json :=
  .obj [("metadata", .obj [("name", .str "web-0"), ("namespace", .str "prod")]),
    ("spec", .obj [("containers", .arr [])])]

/-- The Deployment is kept as JSON, which says more than its payload, and the Pod is kept as a
Pod.  Both have the name and the namespace of their payloads. -/
theorem typed_and_opaque_agree_on_identity_unnamedKind :
    (∃ object, Object.read? .deployments unnamedKind = some object ∧
      ofObject object = other object.toJson ∧ object.toJson ≠ unnamedKind ∧
      (other unnamedKind).name? = some "web" ∧ (ofObject object).name? = some "web" ∧
      (ofObject object).namespace? = none ∧ (ofObject object).kind? = some "Deployment") ∧
    ∃ object, (classify "Pod" untypedPod).1 = pod object ∧
      object.toJson ≠ untypedPod ∧
      (pod object).name? = some "web-0" ∧ (pod object).namespace? = some "prod" ∧
      (other (pod object).toJson).name? = some "web-0" ∧
      (other (pod object).toJson).namespace? = some "prod" ∧
      (other (pod object).toJson).kind? = some "Pod" := by
  obtain ⟨ofPayload, ofResource⟩ := typed_and_opaque_agree_on_identity
  constructor
  · have isRead : (Object.read? .deployments unnamedKind).isSome = true := by decide +kernel
    obtain ⟨object, read⟩ := Option.isSome_iff_exists.mp isRead
    obtain ⟨shown, -, -, -, kind⟩ := ofResource .deployments unnamedKind object read
    have name : (other unnamedKind).name? = some "web" := rfl
    have namespaceName : (other unnamedKind).namespace? = none := rfl
    refine ⟨object, read, rfl, ?_, name, ?_, ?_, kind⟩
    · intro same
      have carried := object.textAt?_kind
      rw [same] at carried
      cases carried
    · rw [← shown.name, name]
    · rw [← shown.namespaceName, namespaceName]
  · have isRead : (Object.read? .pods untypedPod).isSome = true := by decide +kernel
    obtain ⟨object, read⟩ := Option.isSome_iff_exists.mp isRead
    have kept : (classify "Pod" untypedPod).1 = pod object := classify_of_read (by decide) read
    obtain ⟨shown, written, kind⟩ := ofPayload "Pod" untypedPod
    rw [kept] at shown written kind
    have name : (pod object).name? = some "web-0" := by rw [← shown.name]; rfl
    have namespaceName : (pod object).namespace? = some "prod" := by
      rw [← shown.namespaceName]; rfl
    refine ⟨object, kept, ?_, name, namespaceName, ?_, ?_, kind⟩
    · intro same
      have carried := object.textAt?_kind
      rw [same] at carried
      cases carried
    · exact written.name.trans name
    · exact written.namespaceName.trans namespaceName

end Snapshot

end ChangeRelay
