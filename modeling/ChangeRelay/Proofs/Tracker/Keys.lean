import ChangeRelay.Object
import ChangeRelay.Proofs.Text.Parts

/-!
# Keys tell objects apart

A tracker holds its objects under their keys.  Unique ids and the places of objects without one
share this space, and places are made of two texts with a slash between them.  A slash that stands
neither in a unique id nor in a namespace keeps all of this apart: a key with a slash is a place,
and its first slash ends the namespace.
-/

namespace ChangeRelay

namespace Object

variable {resource left right : Resource}

/-- The name that an object goes by: its own name, or else what its name is to be generated
from, or else the empty name. -/
inductive GoesBy (object : Object resource) : String → Prop
  | name {name : String} (own : object.name? = some name) : object.GoesBy name
  | stem {stem : String} (unnamed : object.name? = none)
      (generates : object.metadataText? "generateName" = some stem) : object.GoesBy stem
  | nothing (unnamed : object.name? = none)
      (generatesNone : object.metadataText? "generateName" = none) : object.GoesBy ""

/-- There is no slash in the unique id nor in the namespace of an object, if it has them. -/
structure KeyedPlainly (object : Object resource) : Prop where
  uid : ∀ uid, object.uid? = some uid → '/' ∉ uid.toList
  namespaceName : ∀ namespaceName, object.namespace? = some namespaceName →
    '/' ∉ namespaceName.toList

instance (object : Object resource) : Decidable object.KeyedPlainly :=
  decidable_of_iff
    ((∀ uid ∈ object.uid?, '/' ∉ uid.toList) ∧
      ∀ namespaceName ∈ object.namespace?, '/' ∉ namespaceName.toList)
    ⟨fun ⟨uid, namespaceName⟩ => ⟨uid, namespaceName⟩,
      fun plain => ⟨plain.uid, plain.namespaceName⟩⟩

theorem goesBy_iff (object : Object resource) (name : String) :
    object.GoesBy name ↔ object.nameOrStem = name := by
  unfold nameOrStem
  constructor
  · intro goes
    cases goes with
    | name own => simp [own]
    | stem unnamed generates => simp [unnamed, generates]
    | nothing unnamed generatesNone => simp [unnamed, generatesNone]
  · rintro rfl
    cases own : object.name? with
    | some name => exact .name own
    | none =>
        cases generates : object.metadataText? "generateName" with
        | some stem => exact .stem own generates
        | none => exact .nothing own generates

/-- Two objects go by the same name. -/
theorem exists_goesBy_iff (first : Object left) (second : Object right) :
    (∃ name, first.GoesBy name ∧ second.GoesBy name) ↔
      first.nameOrStem = second.nameOrStem := by
  simp only [goesBy_iff]
  constructor
  · rintro ⟨name, named, same⟩
    exact named.trans same.symm
  · intro same
    exact ⟨second.nameOrStem, same, rfl⟩

/-! ## Both spaces of keys -/

theorem key_of_uid {object : Object resource} {uid : String} (identified : object.uid? = some uid) :
    object.key = uid := by
  rw [key, identified, Option.getD_some]

/-- The key of an object without a unique id is its place. -/
theorem toList_key_of_no_uid {object : Object resource} (unidentified : object.uid? = none) :
    object.key.toList =
      (object.namespace?.getD "").toList ++ '/' :: object.nameOrStem.toList := by
  rw [key, unidentified, Option.getD_none, String.toList_append, String.toList_append,
    List.append_assoc]
  rfl

namespace KeyedPlainly

theorem slash_not_mem_namespace {object : Object resource} (plain : object.KeyedPlainly) :
    '/' ∉ (object.namespace?.getD "").toList := by
  cases spaced : object.namespace? with
  | none => simp
  | some namespaceName => exact plain.namespaceName namespaceName spaced

/-- The keys with a slash are those of the objects without a unique id. -/
theorem slash_mem_key_iff {object : Object resource} (plain : object.KeyedPlainly) :
    '/' ∈ object.key.toList ↔ object.uid? = none := by
  cases identified : object.uid? with
  | none => simp [toList_key_of_no_uid identified]
  | some uid => simpa [key_of_uid identified] using plain.uid uid identified

/-- Places are told apart by their parts, as the first slash stands between them. -/
theorem key_eq_iff_of_no_uid {first : Object left} {second : Object right}
    (plain : first.KeyedPlainly) (alsoPlain : second.KeyedPlainly)
    (unidentified : first.uid? = none) (alsoUnidentified : second.uid? = none) :
    first.key = second.key ↔
      first.namespace?.getD "" = second.namespace?.getD "" ∧
        first.nameOrStem = second.nameOrStem := by
  rw [← String.toList_inj, toList_key_of_no_uid unidentified,
    toList_key_of_no_uid alsoUnidentified,
    Text.append_separator_inj plain.slash_not_mem_namespace alsoPlain.slash_not_mem_namespace,
    String.toList_inj, String.toList_inj]

/-- An object with a unique id never has the key of one without. -/
theorem key_ne_of_uid {first : Object left} {second : Object right}
    (plain : first.KeyedPlainly) (alsoPlain : second.KeyedPlainly) {uid : String}
    (identified : first.uid? = some uid) (unidentified : second.uid? = none) :
    first.key ≠ second.key := by
  intro same
  have slash : '/' ∈ first.key.toList := by
    rw [same]
    exact alsoPlain.slash_mem_key_iff.mpr unidentified
  have noUid := plain.slash_mem_key_iff.mp slash
  rw [identified] at noUid
  cases noUid

end KeyedPlainly

/-! ## Objects with one key -/

/-- Objects have one key if they have one unique id, or if they have none and one place.  The
spaces of both kinds of keys are apart. -/
theorem keys_identify_objects (first : Object left) (second : Object right)
    (plain : first.KeyedPlainly) (alsoPlain : second.KeyedPlainly) :
    (first.key = second.key ↔
      (∃ uid, first.uid? = some uid ∧ second.uid? = some uid) ∨
        (first.uid? = none ∧ second.uid? = none ∧
          first.namespace?.getD "" = second.namespace?.getD "" ∧
          ∃ name, first.GoesBy name ∧ second.GoesBy name)) ∧
      (first.uid?.isSome ≠ second.uid?.isSome → first.key ≠ second.key) := by
  rw [exists_goesBy_iff]
  cases identified : first.uid? with
  | some uid =>
      cases alsoIdentified : second.uid? with
      | some otherUid =>
          rw [key_of_uid identified, key_of_uid alsoIdentified]
          simp [eq_comm]
      | none =>
          have apart := plain.key_ne_of_uid alsoPlain identified alsoIdentified
          simp [apart]
  | none =>
      cases alsoIdentified : second.uid? with
      | some otherUid =>
          have apart := alsoPlain.key_ne_of_uid plain alsoIdentified identified
          simp [apart.symm]
      | none =>
          rw [plain.key_eq_iff_of_no_uid alsoPlain identified alsoIdentified]
          simp

/-- A Deployment in the namespace `prod`, with some more metadata. -/
def deploymentWith (metadata : List (String × Json)) : Option (Object .deployments) :=
  Object.read? .deployments (.obj [("metadata", .obj (metadata ++ [("namespace", .str "prod")]))])

/-- A Deployment without a name of its own. -/
def stemmedDeployment : Object .deployments :=
  (deploymentWith [("generateName", .str "api/v2")]).get rfl

/-- A Deployment with this name. -/
def namedDeployment : Object .deployments :=
  (deploymentWith [("name", .str "api/v2")]).get rfl

/-- A Deployment with this name, and with a unique id. -/
def identifiedDeployment : Object .deployments :=
  (deploymentWith [("name", .str "api/v2"), ("uid", .str "prod")]).get rfl

/-- The Deployments without a unique id have one key, as they go by one name.  The one with a
unique id has another key. -/
theorem keys_identify_objects_deployments :
    (stemmedDeployment.KeyedPlainly ∧ namedDeployment.KeyedPlainly ∧
        identifiedDeployment.KeyedPlainly) ∧
      stemmedDeployment.key = namedDeployment.key ∧
      identifiedDeployment.key ≠ namedDeployment.key := by
  have stemmed : stemmedDeployment.KeyedPlainly := by decide
  have named : namedDeployment.KeyedPlainly := by decide
  have identified : identifiedDeployment.KeyedPlainly := by decide
  refine ⟨⟨stemmed, named, identified⟩, ?_, ?_⟩
  · rw [(keys_identify_objects _ _ stemmed named).1]
    exact .inr ⟨rfl, rfl, rfl, "api/v2", .stem rfl rfl, .name rfl⟩
  · exact (keys_identify_objects _ _ identified named).2 (by decide)

end Object

end ChangeRelay
