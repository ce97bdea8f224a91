import ChangeRelay.Calendar.Timestamp
import ChangeRelay.Json.Basic

/-!
# Data of API objects

A datum is what is kept of an accepted JSON value: unknown fields are gone,
default values are filled in, and timestamps are instants.  Data are compared
by value, instants down to the nanosecond, while `toJson` writes an instant
only as finely as its field does.
-/

namespace ChangeRelay.Schema

open Calendar (Precision Instant)

/-- A value of an API object. -/
inductive Datum where
  | text (value : String)
  | flag (value : Bool)
  | int (value : Int)
  | time (precision : Precision) (value : Instant)
  | free (value : Json)
  | list (items : List Datum)
  /-- The entries of a map or the fields that are present in a record. -/
  | record (entries : List (String × Datum))
deriving Inhabited

namespace Datum

/-! ## Decidable equality -/

mutual

/-- Equality of data is decidable. -/
def decEq : (left right : Datum) → Decidable (left = right)
  | .text a, .text b =>
      if h : a = b then isTrue (h ▸ rfl) else isFalse (fun equal => h (by injection equal))
  | .flag a, .flag b =>
      if h : a = b then isTrue (h ▸ rfl) else isFalse (fun equal => h (by injection equal))
  | .int a, .int b =>
      if h : a = b then isTrue (h ▸ rfl) else isFalse (fun equal => h (by injection equal))
  | .time p a, .time q b =>
      if h : p = q ∧ a = b then isTrue (by rw [h.1, h.2])
      else isFalse (fun equal => h (by injection equal with left right; exact ⟨left, right⟩))
  | .free a, .free b =>
      if h : a = b then isTrue (h ▸ rfl) else isFalse (fun equal => h (by injection equal))
  | .list a, .list b =>
      match decEqItems a b with
      | isTrue h => isTrue (h ▸ rfl)
      | isFalse h => isFalse (fun equal => h (by injection equal))
  | .record a, .record b =>
      match decEqEntries a b with
      | isTrue h => isTrue (h ▸ rfl)
      | isFalse h => isFalse (fun equal => h (by injection equal))
  | .text _, .flag _ | .text _, .int _ | .text _, .time _ _ | .text _, .free _
  | .text _, .list _ | .text _, .record _
  | .flag _, .text _ | .flag _, .int _ | .flag _, .time _ _ | .flag _, .free _
  | .flag _, .list _ | .flag _, .record _
  | .int _, .text _ | .int _, .flag _ | .int _, .time _ _ | .int _, .free _
  | .int _, .list _ | .int _, .record _
  | .time _ _, .text _ | .time _ _, .flag _ | .time _ _, .int _ | .time _ _, .free _
  | .time _ _, .list _ | .time _ _, .record _
  | .free _, .text _ | .free _, .flag _ | .free _, .int _ | .free _, .time _ _
  | .free _, .list _ | .free _, .record _
  | .list _, .text _ | .list _, .flag _ | .list _, .int _ | .list _, .time _ _
  | .list _, .free _ | .list _, .record _
  | .record _, .text _ | .record _, .flag _ | .record _, .int _ | .record _, .time _ _
  | .record _, .free _ | .record _, .list _ =>
      isFalse (fun equal => by injection equal)

/-- Equality of item lists is decidable. -/
def decEqItems : (left right : List Datum) → Decidable (left = right)
  | [], [] => isTrue rfl
  | [], _ :: _ | _ :: _, [] => isFalse (fun equal => by injection equal)
  | a :: as, b :: bs =>
      match decEq a b, decEqItems as bs with
      | isTrue head, isTrue tail => isTrue (by rw [head, tail])
      | isFalse head, _ => isFalse (fun equal => head (by injection equal))
      | _, isFalse tail => isFalse (fun equal => tail (by injection equal))

/-- Equality of entry lists is decidable. -/
def decEqEntries : (left right : List (String × Datum)) → Decidable (left = right)
  | [], [] => isTrue rfl
  | [], _ :: _ | _ :: _, [] => isFalse (fun equal => by injection equal)
  | (j, a) :: as, (k, b) :: bs =>
      if name : j = k then
        match decEq a b, decEqEntries as bs with
        | isTrue head, isTrue tail => isTrue (by rw [name, head, tail])
        | isFalse head, _ =>
            isFalse (fun equal => head (by injection equal with pair; injection pair))
        | _, isFalse tail => isFalse (fun equal => tail (by injection equal))
      else
        isFalse (fun equal => name (by injection equal with pair; injection pair))

end

instance : DecidableEq Datum :=
  decEq

/-! ## Looking into a datum -/

/-- The first entry with this name. -/
def lookup (name : String) : List (String × Datum) → Option Datum
  | [] => none
  | (key, value) :: rest => if key = name then some value else lookup name rest

/-- The field of a record with this name, if it is present. -/
def get? (name : String) : Datum → Option Datum
  | .record entries => lookup name entries
  | _ => none

/-- The text of a text. -/
def text? : Datum → Option String
  | .text value => some value
  | _ => none

/-- The value of an integer. -/
def int? : Datum → Option Int
  | .int value => some value
  | _ => none

/-- The items of a list. -/
def items : Datum → List Datum
  | .list items => items
  | _ => []

/-- The text in a field. -/
def textField? (name : String) (datum : Datum) : Option String :=
  (datum.get? name).bind text?

/-- The items in a field; none if it is absent. -/
def itemsField (name : String) (datum : Datum) : List Datum :=
  ((datum.get? name).map items).getD []

/-! ## Writing -/

mutual

/-- The JSON form of a datum. -/
def toJson : Datum → Json
  | .text value => .str value
  | .flag value => .bool value
  | .int value => .num (.int value)
  | .time precision value => .str (value.toTimestamp precision)
  | .free value => value
  | .list items => .arr (itemsToJson items)
  | .record entries => .obj (entriesToJson entries)

/-- The JSON forms of items. -/
def itemsToJson : List Datum → List Json
  | [] => []
  | item :: rest => toJson item :: itemsToJson rest

/-- The JSON forms of entries. -/
def entriesToJson : List (String × Datum) → List (String × Json)
  | [] => []
  | (name, value) :: rest => (name, toJson value) :: entriesToJson rest

end

/-- Writing a record keeps the entry that a name finds. -/
theorem lookup_entriesToJson (name : String) (entries : List (String × Datum)) :
    Json.lookup name (entriesToJson entries) = (lookup name entries).map toJson := by
  induction entries with
  | nil => simp [entriesToJson, lookup]
  | cons entry rest ih =>
      obtain ⟨key, value⟩ := entry
      by_cases same : key = name
      · simp [entriesToJson, lookup, same]
      · simp [entriesToJson, lookup, Json.lookup, same, ih]

end Datum

end ChangeRelay.Schema
