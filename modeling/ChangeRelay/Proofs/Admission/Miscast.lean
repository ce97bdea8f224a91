import ChangeRelay.Proofs.Admission.Boundary

/-!
# Objects that are not what their kind promises

A rule that looks into the objects of a change lets it through if one of them is not what
the kind promises, be it the current object or the previous one.  It warns about the
current object only.  So a warning comes with every such change but those of which the
previous object alone is to blame.
-/

namespace ChangeRelay

/-- A snapshot holds an object as a kind promises it. -/
def Snapshot.IsOfKind (kind : String) : Snapshot → Prop
  | .coreEvent _ | .eventsV1 _ => kind = "Event"
  | .job _ => kind = "Job"
  | .pod _ => kind = "Pod"
  | .other _ => False

namespace Admission

/-! ## Miscasts -/

/-- The current object is not what the kind promises. -/
def CurrentMiscast (change : Change) : Prop :=
  ¬ change.current.IsOfKind change.kind

/-- There is a previous object with which a rule compares, and it is not what the kind
promises. -/
def PreviousMiscast (change : Change) : Prop :=
  change.kind ∈ ["Job", "Pod"] ∧
    ∃ previous, change.previous = some previous ∧ ¬ previous.IsOfKind change.kind

/-- What a filter warns about when it decides about a change. -/
def warnings (filter : Filter) (change : Change) : List Log.Entry :=
  Log.ofLevel .warn (filter.examine change).log

/-- A filter warns once about a change with an object that is not what the kind promises,
and not at all about any other. -/
def WarnsOfMiscasts (filter : Filter) (change : Change) : Prop :=
  (CurrentMiscast change ∨ PreviousMiscast change → (warnings filter change).length = 1) ∧
    (¬ (CurrentMiscast change ∨ PreviousMiscast change) → warnings filter change = [])

theorem isOfKind_event_iff (snapshot : Snapshot) :
    snapshot.IsOfKind "Event" ↔ snapshot.event? ≠ none := by
  cases snapshot <;> simp [Snapshot.IsOfKind, Snapshot.event?]

theorem isOfKind_workload_iff (workload : Workload) (snapshot : Snapshot) :
    snapshot.IsOfKind workload.kind ↔ snapshot.typed? workload.resource ≠ none := by
  cases workload <;> cases snapshot <;>
    simp [Snapshot.IsOfKind, Snapshot.typed?, Workload.kind, Workload.resource]

section Enabled

variable {filter : Filter} (enabled : filter.enabled = true) {change : Change}
  (looks : LooksInto change.kind change.reason)

include enabled looks

/-- A rule fails to cast exactly the current objects that are not what the kind promises. -/
theorem isUncast_examine_iff :
    (filter.examine change).isUncast = true ↔ CurrentMiscast change := by
  rcases looks with ⟨kind, reason⟩ | ⟨ofWorkload, reason⟩
  · rw [examine_of_event enabled kind, isUncast_examineEvent_iff, CurrentMiscast, kind,
      isOfKind_event_iff, not_not]
    exact and_iff_right reason
  · obtain ⟨workload, kind⟩ := (mem_workloadKinds_iff _).mp ofWorkload
    rw [examine_of_workload enabled kind, isUncast_examineWorkload_iff, CurrentMiscast, kind,
      isOfKind_workload_iff, not_not]
    exact and_iff_right reason

theorem length_warnings_of_miscast (miscast : CurrentMiscast change) :
    (warnings filter change).length = 1 := by
  rw [warnings, Finding.length_warnings, (isUncast_examine_iff enabled looks).mpr miscast]
  rfl

theorem warnings_of_cast (cast : ¬ CurrentMiscast change) : warnings filter change = [] := by
  rw [← isUncast_examine_iff enabled looks] at cast
  rw [← List.length_eq_zero_iff, warnings, Finding.length_warnings, if_neg cast]

theorem sends_of_miscast (miscast : CurrentMiscast change ∨ PreviousMiscast change) :
    filter.sends change = true := by
  rcases looks with ⟨kind, reason⟩ | ⟨ofWorkload, reason⟩
  · rw [sends_of_event enabled kind]
    refine ⟨reason, .inl ?_⟩
    rcases miscast with current | ⟨ofWorkload, -⟩
    · rw [CurrentMiscast, kind, isOfKind_event_iff, not_not] at current
      exact current
    · rw [kind] at ofWorkload
      exact absurd ofWorkload (by decide)
  · obtain ⟨workload, kind⟩ := (mem_workloadKinds_iff _).mp ofWorkload
    rw [sends_of_workload enabled kind]
    refine .inr (.inr ⟨reason, ?_⟩)
    rcases miscast with current | ⟨-, previous, held, miscast⟩
    · rw [CurrentMiscast, kind, isOfKind_workload_iff, not_not] at current
      exact .inl current
    · rw [kind, isOfKind_workload_iff, not_not] at miscast
      refine .inr (.inl ?_)
      rw [held, Option.bind_some, miscast]

end Enabled

/-- Every change with an object that is not what the kind promises is sent.  The filter
warns about it as it should, unless the previous object alone is to blame. -/
theorem miscasts_are_sent_and_warned_about_iff (filter : Filter) (change : Change)
    (enabled : filter.enabled = true) (looks : LooksInto change.kind change.reason) :
    (CurrentMiscast change ∨ PreviousMiscast change → filter.sends change = true) ∧
      (CurrentMiscast change → (warnings filter change).length = 1) ∧
      (¬ CurrentMiscast change → warnings filter change = []) ∧
      (WarnsOfMiscasts filter change ↔ (PreviousMiscast change → CurrentMiscast change)) := by
  have warned := length_warnings_of_miscast enabled looks
  have silent := warnings_of_cast enabled looks
  refine ⟨sends_of_miscast enabled looks, warned, silent, ?_, ?_⟩
  · rintro ⟨ofMiscast, -⟩ previous
    have once := ofMiscast (.inr previous)
    by_contra cast
    rw [silent cast] at once
    cases once
  · intro covered
    constructor
    · rintro (current | previous)
      · exact warned current
      · exact warned (covered previous)
    · intro cast
      exact silent fun current => cast (.inl current)

/-! ## Jobs with a previous object that is none -/

/-- A Job under a name. -/
def namedJob : Object .jobs :=
  (Object.read? .jobs (.obj [("metadata", .obj [("name", .str "cleanup")])])).get rfl

/-- What claims to be a Pod and is a Job is sent with one warning. -/
theorem miscasts_are_sent_and_warned_about_iff_namedJob :
    let change : Change := ⟨"Pod", .updated, .job namedJob, none⟩
    LooksInto change.kind change.reason ∧ (Filter.mk true).sends change = true ∧
      (warnings (Filter.mk true) change).length = 1 := by
  intro change
  have looks : LooksInto change.kind change.reason := by decide
  have miscast : CurrentMiscast change := by
    simp [CurrentMiscast, change, Snapshot.IsOfKind]
  obtain ⟨sent, warned, -, -⟩ :=
    miscasts_are_sent_and_warned_about_iff (Filter.mk true) change rfl looks
  exact ⟨looks, sent (.inl miscast), warned miscast⟩

/-- The previous object of this Job is not a Job.  Nobody warns about that. -/
theorem previous_miscast_without_warning :
    let change : Change := ⟨"Job", .updated, .job namedJob, some (.other (.obj []))⟩
    LooksInto change.kind change.reason ∧ PreviousMiscast change ∧
      (Filter.mk true).sends change = true ∧ warnings (Filter.mk true) change = [] ∧
      ¬ WarnsOfMiscasts (Filter.mk true) change := by
  intro change
  have looks : LooksInto change.kind change.reason := by decide
  have miscast : PreviousMiscast change := ⟨by decide, _, rfl, id⟩
  have silent : warnings (Filter.mk true) change = [] := rfl
  refine ⟨looks, miscast, rfl, silent, ?_⟩
  rintro ⟨ofMiscast, -⟩
  have once := ofMiscast (.inr miscast)
  rw [silent] at once
  cases once

end Admission

end ChangeRelay
