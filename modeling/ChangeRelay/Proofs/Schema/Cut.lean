import ChangeRelay.Proofs.Calendar.Timestamp
import ChangeRelay.Schema.Datum

/-!
# Data as finely as they are written

Writing a datum cuts its times to their precision.  A datum that is cut
beforehand is written in the same way, and cutting changes nothing if every time
is whole.
-/

namespace ChangeRelay.Schema

open Calendar (Precision Instant)

namespace Datum

mutual

/-- The datum with every time cut to its precision. -/
def cut : Datum → Datum
  | .text value => .text value
  | .flag value => .flag value
  | .int value => .int value
  | .time precision value => .time precision (value.cutTo precision.unit)
  | .free value => .free value
  | .list items => .list (cutItems items)
  | .record entries => .record (cutEntries entries)

/-- Items with every time cut. -/
def cutItems : List Datum → List Datum
  | [] => []
  | item :: rest => cut item :: cutItems rest

/-- Entries with every time cut. -/
def cutEntries : List (String × Datum) → List (String × Datum)
  | [] => []
  | (name, value) :: rest => (name, cut value) :: cutEntries rest

end

mutual

/-- The times in a datum, each with its precision. -/
def times : Datum → List (Precision × Instant)
  | .time precision value => [(precision, value)]
  | .list items => timesOfItems items
  | .record entries => timesOfEntries entries
  | .text _ | .flag _ | .int _ | .free _ => []

/-- The times in some items. -/
def timesOfItems : List Datum → List (Precision × Instant)
  | [] => []
  | item :: rest => times item ++ timesOfItems rest

/-- The times in some entries. -/
def timesOfEntries : List (String × Datum) → List (Precision × Instant)
  | [] => []
  | (_, value) :: rest => times value ++ timesOfEntries rest

end

/-! ## Writing what is cut -/

mutual

/-- Cutting changes nothing of what is written. -/
theorem toJson_cut : (datum : Datum) → datum.cut.toJson = datum.toJson
  | .text _ | .flag _ | .int _ | .free _ => rfl
  | .time _ _ => by rw [cut, toJson, toJson, Instant.toTimestamp_cutTo]
  | .list items => by rw [cut, toJson, toJson, itemsToJson_cutItems items]
  | .record entries => by rw [cut, toJson, toJson, entriesToJson_cutEntries entries]

theorem itemsToJson_cutItems : (items : List Datum) →
    itemsToJson (cutItems items) = itemsToJson items
  | [] => rfl
  | item :: rest => by
      rw [cutItems, itemsToJson, itemsToJson, toJson_cut item, itemsToJson_cutItems rest]

theorem entriesToJson_cutEntries : (entries : List (String × Datum)) →
    entriesToJson (cutEntries entries) = entriesToJson entries
  | [] => rfl
  | (name, value) :: rest => by
      rw [cutEntries, entriesToJson, entriesToJson, toJson_cut value,
        entriesToJson_cutEntries rest]

end

/-! ## Whole times -/

/-- Whether every time is as coarse as it is written. -/
def AllWhole (times : List (Precision × Instant)) : Prop :=
  ∀ time ∈ times, time.2.IsWhole time.1.unit

instance (times : List (Precision × Instant)) : Decidable (AllWhole times) :=
  inferInstanceAs (Decidable (∀ _ ∈ _, _))

theorem AllWhole.of_append {first second : List (Precision × Instant)}
    (whole : AllWhole (first ++ second)) : AllWhole first ∧ AllWhole second :=
  List.forall_mem_append.mp whole

mutual

/-- A datum is not changed by cutting if its times are whole. -/
theorem cut_of_allWhole : (datum : Datum) → AllWhole datum.times → datum.cut = datum
  | .text _, _ | .flag _, _ | .int _, _ | .free _, _ => rfl
  | .time precision value, whole => by
      have here : value.IsWhole precision.unit := whole (precision, value) (by simp [times])
      rw [cut, Instant.cutTo_of_isWhole here]
  | .list items, whole => by rw [cut, cutItems_of_allWhole items whole]
  | .record entries, whole => by rw [cut, cutEntries_of_allWhole entries whole]

theorem cutItems_of_allWhole : (items : List Datum) → AllWhole (timesOfItems items) →
    cutItems items = items
  | [], _ => rfl
  | item :: rest, whole => by
      obtain ⟨here, others⟩ := whole.of_append
      rw [cutItems, cut_of_allWhole item here, cutItems_of_allWhole rest others]

theorem cutEntries_of_allWhole : (entries : List (String × Datum)) →
    AllWhole (timesOfEntries entries) → cutEntries entries = entries
  | [], _ => rfl
  | (_, value) :: rest, whole => by
      obtain ⟨here, others⟩ := whole.of_append
      rw [cutEntries, cut_of_allWhole value here, cutEntries_of_allWhole rest others]

end

end Datum

end ChangeRelay.Schema
