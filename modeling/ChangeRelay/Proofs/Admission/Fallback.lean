import ChangeRelay.Proofs.Admission.Passage
import ChangeRelay.Proofs.Tracker.Provenance

/-!
# Tracked changes need no fallback

The rules of the filter can fall back: an object that is not of its kind is sent
with a warning, an update without an earlier state is sent as it is, and a reason
that is none of the three is dropped.  A change that a tracker reports is well
formed, and for such a change the filter falls back on nothing.
-/

namespace ChangeRelay.Admission

variable {resource : Resource}

/-! ## Findings that fall back -/

/-- A finding was made because the change does not have the form that its kind
promises. -/
def Finding.FallsBack : Finding → Prop
  | .eventUncast _ | .uncast _ _ | .unpaired | .unknownReason | .eventNotCreated (.other _) => True
  | _ => False

/-- Only a finding that falls back is warned about. -/
theorem Finding.fallsBack_of_warns {finding : Finding} {entry : Log.Entry}
    (logged : entry ∈ finding.log) (warns : entry.level = .warn) : finding.FallsBack := by
  cases finding with
  | eventUncast | uncast | unpaired | unknownReason => trivial
  | unfiltered | unruled | eventWarning | lifecycle => cases logged
  | eventNotCreated | eventEvicted | eventRoutine | specChanged | jobFailed | podTroubled
  | routine =>
      rw [List.mem_singleton.mp logged] at warns
      cases warns

/-! ## The rules at well-formed changes -/

theorem Workload.not_fallsBack_examineStatus (name : String) (workload : Workload)
    (object : Object workload.resource) : ¬ (workload.examineStatus name object).FallsBack := by
  cases workload with
  | job =>
      rw [examineStatus]
      split <;> exact id
  | pod =>
      rw [examineStatus]
      split <;> exact id

variable {change : Change}

theorem not_fallsBack_examineWorkload {workload : Workload} {object : Object workload.resource}
    (wellFormed : change.WellFormed object) :
    ¬ (examineWorkload workload.examineUpdate change).FallsBack := by
  rw [examineWorkload]
  cases reason : change.reason with
  | created | deleted => exact id
  | other label => exact absurd reason (wellFormed.reason label)
  | updated =>
      obtain ⟨snapshot, held⟩ := Option.isSome_iff_exists.mp (wellFormed.paired.mpr reason)
      obtain ⟨earlier, rfl, _⟩ := wellFormed.previous snapshot held
      have typed : change.current.typed? workload.resource = some object :=
        (Snapshot.typed?_eq_some_iff workload _ object).mpr wellFormed.current
      have paired : change.previous.bind (Snapshot.typed? workload.resource) = some earlier := by
        rw [held]
        exact (Snapshot.typed?_eq_some_iff workload _ earlier).mpr rfl
      change ¬ (workload.examineUpdate change).FallsBack
      rw [Workload.examineUpdate_of_paired typed paired]
      split
      · exact id
      · exact workload.not_fallsBack_examineStatus change.name object

theorem not_fallsBack_examineEvent {event : Schema.Datum}
    (shown : change.current.event? = some event)
    (named : ∀ label, change.reason ≠ .other label) : ¬ (examineEvent change).FallsBack := by
  rw [examineEvent, eventTexts?_eq, shown]
  split
  · cases reason : change.reason with
    | created | updated | deleted => exact id
    | other label => exact absurd reason (named label)
  · simp only [Option.map_some]
    split
    · exact id
    · split <;> exact id

/-- A filter, be it on or off, does not fall back at a well-formed change. -/
theorem not_fallsBack_of_wellFormed {object : Object resource}
    (wellFormed : change.WellFormed object) (filter : Filter) :
    ¬ (filter.examine change).FallsBack := by
  cases enabled : filter.enabled with
  | false =>
      simp [Filter.examine, enabled, Finding.FallsBack]
  | true =>
      have kind := wellFormed.kind
      have ofWorkload (workload : Workload) (same : resource = workload.resource) :
          ¬ (filter.examine change).FallsBack := by
        subst same
        rw [examine_of_workload enabled (kind.trans workload.kind_resource)]
        exact not_fallsBack_examineWorkload wellFormed
      cases resource with
      | pods => exact ofWorkload .pod rfl
      | jobs => exact ofWorkload .job rfl
      | events | eventsV1 =>
          have shown : change.current.event? = some object.datum := by
            rw [wellFormed.current]
            rfl
          rw [examine_of_event enabled kind]
          exact not_fallsBack_examineEvent shown wellFormed.reason
      | deployments | daemonSets | statefulSets | services | nodes =>
          rw [examine_of_unruled enabled (kind ▸ by decide)]
          exact id

/-- Tracked changes are well formed, whatever notifications came before.  So a
filter neither falls back at them nor warns about them. -/
theorem tracked_changes_are_well_formed (history : List (Notification resource))
    (step : Notification resource) (change : Change)
    (reported : (Tracker.after history).report? step = some change) :
    (∃ object, (step = .applied object ∨ step = .deleted object) ∧ change.WellFormed object) ∧
      ∀ filter : Filter, ¬ (filter.examine change).FallsBack ∧
        ∀ entry ∈ (filter.examine change).log, entry.level ≠ .warn := by
  obtain ⟨object, told, wellFormed⟩ := (Tracker.keyed_after history).wellFormed reported
  refine ⟨⟨object, told, wellFormed⟩, fun filter => ?_⟩
  have direct := not_fallsBack_of_wellFormed wellFormed filter
  exact ⟨direct, fun entry logged warns => direct (Finding.fallsBack_of_warns logged warns)⟩

/-! ## A Job that begins to run -/

/-- A Job that waits. -/
def waitingJob : Object .jobs :=
  (Object.read? .jobs (.obj [("metadata", .obj [("name", .str "backup")])])).get rfl

/-- The same Job, as it runs. -/
def runningJob : Object .jobs :=
  (Object.read? .jobs (.obj [("metadata", .obj [("name", .str "backup")]),
    ("status", .obj [("active", .num (.int 1))])])).get rfl

/-- The Job was listed, so that its new state is an update, which a filter compares
with the listed state. -/
theorem tracked_changes_are_well_formed_runningJob :
    let history := [.listBegins, .listed waitingJob, .listEnds]
    let update := Tracker.changeOf .updated runningJob (some waitingJob)
    (Tracker.after history).report? (.applied runningJob) = some update ∧
      (∃ object : Object .jobs, update.WellFormed object) ∧
      ¬ ((Filter.mk true).examine update).FallsBack := by
  intro history update
  have reported : (Tracker.after history).report? (.applied runningJob) = some update := rfl
  obtain ⟨⟨object, _, wellFormed⟩, direct⟩ :=
    tracked_changes_are_well_formed history (.applied runningJob) update reported
  exact ⟨reported, ⟨object, wellFormed⟩, (direct (Filter.mk true)).1⟩

end ChangeRelay.Admission
