import ChangeRelay.Proofs.Config.Loading
import ChangeRelay.Proofs.Text.Unsigned
import ChangeRelay.Relay.Hub

/-!
# Capacities that are accepted

Loading accepts every capacity of 64 bits that is not zero.  A hub raises a capacity
to at least one but never lowers it, and channels end well below the range of
64 bits.  So a hub has a channel for exactly those accepted capacities that a channel
can have, and for the others there is none.
-/

namespace ChangeRelay.Config

open Relay (Channel Hub)

variable {lookup : String → Option String} {config : Config} {capacity : Nat}

/-! ## The range of the capacity -/

theorem Reads.capacity_mem_range {text : String}
    (reads : Reads .channelCapacity text (.ok capacity)) :
    0 < capacity ∧ capacity ≤ Text.largest64 := by
  cases reads with
  | capacity spelled positive =>
      obtain ⟨_, _, _, _, _, fits⟩ := Text.readUnsigned_eq_ok_iff.mp spelled
      exact ⟨Nat.pos_of_ne_zero positive, fits⟩

/-- The default capacity is in the range too. -/
theorem channelCapacity_mem_range (loaded : load lookup = .ok config) :
    0 < config.channelCapacity ∧ config.channelCapacity ≤ Text.largest64 := by
  by_cases set : ∃ text, Sets lookup .channelCapacity text
  · obtain ⟨text, sets⟩ := set
    exact (reads_field loaded sets).capacity_mem_range
  · have unset : config.channelCapacity = default.channelCapacity :=
      field_eq_default loaded (not_exists.mp set)
    rw [unset]
    decide

/-- Settings of the capacity alone, in decimal. -/
def capacitySettings (capacity : Nat) (name : String) : Option String :=
  if name = Variable.channelCapacity.name then some (toString capacity) else none

theorem load_capacitySettings (positive : 0 < capacity) (fits : capacity ≤ Text.largest64) :
    load (capacitySettings capacity) = .ok { default with channelCapacity := capacity } := by
  refine load_eq_ok_iff.mpr fun which => ?_
  by_cases here : which = .channelCapacity
  · subst here
    have sets : Sets (capacitySettings capacity) .channelCapacity (toString capacity) :=
      ⟨if_pos rfl, by simp [Nat.toString_eq_repr]⟩
    rw [fieldOf_of_sets sets]
    have spelled := Text.readUnsigned_toString fits
    exact read_eq_iff.mpr (.capacity spelled (Nat.ne_of_gt positive))
  · have otherName : which.name ≠ Variable.channelCapacity.name := by
      revert here
      cases which <;> decide
    have unset : ∀ text, ¬ Sets (capacitySettings capacity) which text := by
      rintro text ⟨found, -⟩
      rw [capacitySettings, if_neg otherName] at found
      cases found
    rw [fieldOf_of_unset unset]
    cases which with
    | channelCapacity => exact absurd rfl here
    | _ => rfl

/-- The capacities that loading accepts are the positive numbers of 64 bits. -/
theorem exists_load_with_capacity_iff (capacity : Nat) :
    (∃ lookup config, load lookup = .ok config ∧ config.channelCapacity = capacity) ↔
      0 < capacity ∧ capacity ≤ Text.largest64 := by
  constructor
  · rintro ⟨lookup, config, loaded, rfl⟩
    exact channelCapacity_mem_range loaded
  · rintro ⟨positive, fits⟩
    exact ⟨_, _, load_capacitySettings positive fits, rfl⟩

/-! ## Channels -/

/-- A hub takes a positive capacity as it is, and has a channel unless it is too large. -/
theorem openChannel?_withCapacity (hub : Hub) (positive : 0 < capacity) :
    (hub.withCapacity capacity).openChannel? =
      if capacity ≤ Channel.largestCapacity then some ⟨capacity, [], 1, true⟩ else none := by
  have taken : max capacity 1 = capacity := Nat.max_eq_left positive
  simp only [Hub.openChannel?, Hub.withCapacity, Channel.new?, taken, positive, true_and]

/-- A hub with an accepted capacity has a channel exactly if a channel can have this
capacity, and then the channel has no other one. -/
theorem accepted_capacity_opens_channel_iff (hub : Hub) (loaded : load lookup = .ok config) :
    ((∃ channel, (hub.withCapacity config.channelCapacity).openChannel? = some channel) ↔
        config.channelCapacity ≤ Channel.largestCapacity) ∧
      ∀ channel, (hub.withCapacity config.channelCapacity).openChannel? = some channel →
        channel = ⟨config.channelCapacity, [], 1, true⟩ := by
  rw [openChannel?_withCapacity hub (channelCapacity_mem_range loaded).1]
  split
  next fits => exact ⟨⟨fun _ => fits, fun _ => ⟨_, rfl⟩⟩, fun _ same => (Option.some.inj same).symm⟩
  next large =>
    refine ⟨⟨?_, fun fits => absurd fits large⟩, nofun⟩
    rintro ⟨_, ⟨⟩⟩

/-- The largest capacity of a channel is accepted, and a channel has it. -/
theorem accepted_capacity_opens_channel_iff_largest :
    load (capacitySettings 2305843009213693951) =
        .ok { default with channelCapacity := 2305843009213693951 } ∧
      ∃ channel, (Hub.default.withCapacity 2305843009213693951).openChannel? = some channel := by
  have loaded : load (capacitySettings 2305843009213693951) = .ok _ :=
    load_capacitySettings (by decide) (by decide)
  exact ⟨loaded, (accepted_capacity_opens_channel_iff Hub.default loaded).1.mpr (by decide)⟩

/-- The next capacity is accepted as well, but no channel has it. -/
theorem accepted_capacity_without_channel :
    load (capacitySettings 2305843009213693952) =
        .ok { default with channelCapacity := 2305843009213693952 } ∧
      (Hub.default.withCapacity 2305843009213693952).openChannel? = none :=
  ⟨load_capacitySettings (by decide) (by decide), openChannel?_withCapacity _ (by decide)⟩

end ChangeRelay.Config
