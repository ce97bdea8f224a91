import ChangeRelay.Proofs.Admission.Significance

/-!
# The filter decides by the table

The rule for updates is described by its outcomes, one law for each: an object
that is not of its kind, an update without an earlier state, and two states that
are compared.  The decision then follows by going through the rows of the table.
-/

namespace ChangeRelay.Admission

open Schema

/-! ## The rule for updates -/

namespace Workload

/-- The rule for updates of a workload. -/
def examineUpdate : Workload → Change → Finding
  | job => examineJobUpdate
  | pod => examinePodUpdate

/-- What the rule for updates finds about an object whose spec did not change. -/
def examineStatus (name : String) : (workload : Workload) → Object workload.resource → Finding
  | job, object =>
      if (JobReport.of object).hasFailed then .jobFailed name else .routine .job name
  | pod, object =>
      match (PodReport.of? object).bind PodReport.signal? with
      | some signal => .podTroubled name signal
      | none => .routine .pod name

theorem sends_examineStatus_iff (name : String) (workload : Workload)
    (object : Object workload.resource) :
    (workload.examineStatus name object).sends = true ↔ workload.Significant object := by
  cases workload with
  | job =>
      have failed := hasFailed_iff object
      cases found : (JobReport.of object).hasFailed with
      | true =>
          simp only [examineStatus, found, if_true, Finding.sends, true_iff]
          exact failed.mp found
      | false =>
          simp only [examineStatus, found, if_false, Finding.sends, Bool.false_eq_true, false_iff]
          intro significant
          rw [found] at failed
          exact Bool.false_ne_true (failed.mpr significant)
  | pod =>
      have silent := signal?_eq_none_iff object
      cases found : (PodReport.of? object).bind PodReport.signal? with
      | some signal =>
          simp only [examineStatus, found, Finding.sends, true_iff]
          rw [found] at silent
          exact Classical.byContradiction fun nothing =>
            Option.some_ne_none signal (silent.mpr nothing)
      | none =>
          simp only [examineStatus, found, Finding.sends, Bool.false_eq_true, false_iff]
          exact silent.mp found

theorem specChanged_iff (workload : Workload) (current previous : Object workload.resource) :
    Admission.specChanged workload.specShape (current.get? "spec") (previous.get? "spec") = true ↔
      workload.specOf current ≠ workload.specOf previous := by
  simp [Admission.specChanged, specOf]

variable {workload : Workload} {change : Change}

theorem examineUpdate_of_untyped (untyped : change.current.typed? workload.resource = none) :
    workload.examineUpdate change = .uncast workload change.name := by
  rcases change with ⟨kind, reason, current, previous⟩
  cases workload <;> cases current <;>
    first | rfl | simp [Snapshot.typed?, resource] at untyped

theorem examineUpdate_of_unpaired {current : Object workload.resource}
    (typed : change.current.typed? workload.resource = some current)
    (unpaired : change.previous.bind (Snapshot.typed? workload.resource) = none) :
    workload.examineUpdate change = .unpaired := by
  rw [Snapshot.typed?_eq_some_iff] at typed
  rcases change with ⟨kind, reason, _, previous⟩
  cases typed
  cases previous with
  | none => cases workload <;> rfl
  | some snapshot =>
      cases workload <;> cases snapshot <;>
        first | rfl | simp [Snapshot.typed?, resource] at unpaired

theorem examineUpdate_of_paired {current previous : Object workload.resource}
    (typed : change.current.typed? workload.resource = some current)
    (paired : change.previous.bind (Snapshot.typed? workload.resource) = some previous) :
    workload.examineUpdate change =
      if workload.specOf current ≠ workload.specOf previous then
        .specChanged workload change.name
      else workload.examineStatus change.name current := by
  obtain ⟨snapshot, held, same⟩ := Option.bind_eq_some_iff.mp paired
  rw [Snapshot.typed?_eq_some_iff] at typed same
  subst same
  have changed := specChanged_iff workload current previous
  cases workload with
  | job =>
      simp only [examineUpdate, examineJobUpdate, typed, held, Snapshot.ofObject]
      simp only [← changed]
      rfl
  | pod =>
      simp only [examineUpdate, examinePodUpdate, typed, held, Snapshot.ofObject]
      simp only [← changed]
      rfl

/-- The rule for updates compares two states, or finds that there are no two to compare. -/
theorem examineUpdate_cases (workload : Workload) (change : Change) :
    workload.examineUpdate change = .uncast workload change.name ∨
      workload.examineUpdate change = .unpaired ∨
      ∃ current previous : Object workload.resource,
        change.current = .ofObject current ∧ change.previous = some (.ofObject previous) ∧
        workload.examineUpdate change =
          if workload.specOf current ≠ workload.specOf previous then
            .specChanged workload change.name
          else workload.examineStatus change.name current := by
  cases typed : change.current.typed? workload.resource with
  | none => exact .inl (examineUpdate_of_untyped typed)
  | some current =>
      cases paired : change.previous.bind (Snapshot.typed? workload.resource) with
      | none => exact .inr (.inl (examineUpdate_of_unpaired typed paired))
      | some previous =>
          obtain ⟨snapshot, held, same⟩ := Option.bind_eq_some_iff.mp paired
          obtain rfl := (Snapshot.typed?_eq_some_iff workload snapshot previous).mp same
          exact .inr (.inr ⟨current, previous,
            (Snapshot.typed?_eq_some_iff workload _ current).mp typed, held,
            examineUpdate_of_paired typed paired⟩)

/-- An update of a workload is sent exactly if it passes the row for updates. -/
theorem sends_examineUpdate_iff (workload : Workload) (change : Change) :
    (workload.examineUpdate change).sends = true ↔ UpdatePasses workload change := by
  rw [UpdatePasses]
  cases typed : change.current.typed? workload.resource with
  | none => simp [examineUpdate_of_untyped typed, Finding.sends]
  | some current =>
      cases paired : change.previous.bind (Snapshot.typed? workload.resource) with
      | none => simp [examineUpdate_of_unpaired typed paired, Finding.sends]
      | some previous =>
          rw [examineUpdate_of_paired typed paired]
          by_cases differ : workload.specOf current ≠ workload.specOf previous
          · simp [differ, Finding.sends]
          · simp [differ, sends_examineStatus_iff]

theorem sends_examineWorkload_iff (workload : Workload) (change : Change) :
    (examineWorkload workload.examineUpdate change).sends = true ↔
      WorkloadPasses workload change := by
  rw [examineWorkload, WorkloadPasses]
  cases change.reason with
  | created | deleted | other label => simp [Finding.sends]
  | updated => simp [sends_examineUpdate_iff]

end Workload

/-! ## The rule for Event objects -/

theorem eventTexts?_eq (snapshot : Snapshot) :
    eventTexts? snapshot =
      snapshot.event?.map fun event => (event.textField? "type", event.textField? "reason") := by
  cases snapshot <;> rfl

/-- A change of kind Event is sent exactly if it passes the row for Event
objects. -/
theorem sends_examineEvent_iff (change : Change) :
    (examineEvent change).sends = true ↔ EventPasses change := by
  rw [examineEvent, EventPasses, eventTexts?_eq]
  by_cases created : change.reason = .created
  · cases typed : change.current.event? with
    | none => simp [created, Finding.sends]
    | some event =>
        simp only [created, EventMatters, ← Datum.textField?_eq_some_iff, Option.map_some]
        by_cases evicted : event.textField? "reason" = some "Evicted"
        · simp [evicted, Finding.sends]
        · by_cases warning : event.textField? "type" = some "Warning" <;>
            simp [evicted, warning, Finding.sends]
  · simp [created, Finding.sends]

/-! ## The whole table -/

namespace Workload

theorem kind_ne_event (workload : Workload) : workload.kind ≠ "Event" := by
  cases workload <;> decide

theorem kind_injective {first second : Workload} (same : first.kind = second.kind) :
    first = second := by
  cases first <;> cases second <;> first | rfl | (revert same; decide)

end Workload

theorem mem_ruledKinds_iff (kind : String) :
    kind ∈ ["Event", "Job", "Pod"] ↔
      kind = "Event" ∨ ∃ workload : Workload, kind = workload.kind := by
  constructor
  · intro ruled
    simp only [List.mem_cons, List.not_mem_nil, or_false] at ruled
    rcases ruled with rfl | rfl | rfl
    · exact .inl rfl
    · exact .inr ⟨.job, rfl⟩
    · exact .inr ⟨.pod, rfl⟩
  · rintro (rfl | ⟨workload, rfl⟩)
    · decide
    · cases workload <;> decide

theorem mem_workloadKinds_iff (kind : String) :
    kind ∈ ["Job", "Pod"] ↔ ∃ workload : Workload, kind = workload.kind := by
  constructor
  · intro ofWorkload
    simp only [List.mem_cons, List.not_mem_nil, or_false] at ofWorkload
    rcases ofWorkload with rfl | rfl
    · exact ⟨.job, rfl⟩
    · exact ⟨.pod, rfl⟩
  · rintro ⟨workload, rfl⟩
    cases workload <;> decide

theorem examine_of_disabled {filter : Filter} (disabled : filter.enabled = false)
    (change : Change) : filter.examine change = .unfiltered := by
  simp [Filter.examine, disabled]

section Enabled

variable {filter : Filter} (enabled : filter.enabled = true) {change : Change}

include enabled

theorem examine_of_event (kind : change.kind = "Event") :
    filter.examine change = examineEvent change := by
  simp [Filter.examine, enabled, kind]

theorem examine_of_workload {workload : Workload} (kind : change.kind = workload.kind) :
    filter.examine change = examineWorkload workload.examineUpdate change := by
  cases workload <;> simp [Filter.examine, enabled, kind, Workload.kind, Workload.examineUpdate]

theorem examine_of_unruled (kind : change.kind ∉ ["Event", "Job", "Pod"]) :
    filter.examine change = .unruled := by
  simp only [List.mem_cons, List.not_mem_nil, or_false, not_or] at kind
  simp [Filter.examine, enabled, kind]

theorem sends_of_event (kind : change.kind = "Event") :
    filter.sends change = true ↔ EventPasses change := by
  rw [Filter.sends, examine_of_event enabled kind, sends_examineEvent_iff]

theorem sends_of_workload {workload : Workload} (kind : change.kind = workload.kind) :
    filter.sends change = true ↔ WorkloadPasses workload change := by
  rw [Filter.sends, examine_of_workload enabled kind, workload.sends_examineWorkload_iff]

theorem sends_of_unruled (kind : change.kind ∉ ["Event", "Job", "Pod"]) :
    filter.sends change = true := by
  rw [Filter.sends, examine_of_unruled enabled kind]
  rfl

theorem passes_of_event (kind : change.kind = "Event") :
    Passes filter change ↔ EventPasses change := by
  simp [Passes, enabled, kind, (Workload.kind_ne_event _).symm]

theorem passes_of_workload {workload : Workload} (kind : change.kind = workload.kind) :
    Passes filter change ↔ WorkloadPasses workload change := by
  have ruled : workload.kind ∈ ["Event", "Job", "Pod"] :=
    (mem_ruledKinds_iff _).mpr (.inr ⟨workload, rfl⟩)
  simp only [Passes, enabled, kind, ruled, workload.kind_ne_event, Bool.true_eq_false,
    not_true_eq_false, false_and, false_or]
  constructor
  · rintro ⟨other, same, passes⟩
    cases Workload.kind_injective same
    exact passes
  · intro passes
    exact ⟨workload, rfl, passes⟩

end Enabled

/-- Every finding is that of one rule, if there is one for the kind. -/
theorem examine_cases (filter : Filter) (change : Change) :
    filter.examine change = .unfiltered ∨ filter.examine change = .unruled ∨
      (change.kind = "Event" ∧ filter.examine change = examineEvent change) ∨
      ∃ workload : Workload, change.kind = workload.kind ∧
        filter.examine change = examineWorkload workload.examineUpdate change := by
  cases enabled : filter.enabled with
  | false => exact .inl (examine_of_disabled enabled change)
  | true =>
      by_cases ruled : change.kind ∈ ["Event", "Job", "Pod"]
      · rcases (mem_ruledKinds_iff change.kind).mp ruled with kind | ⟨workload, kind⟩
        · exact .inr (.inr (.inl ⟨kind, examine_of_event enabled kind⟩))
        · exact .inr (.inr (.inr ⟨workload, kind, examine_of_workload enabled kind⟩))
      · exact .inr (.inl (examine_of_unruled enabled ruled))

/-- The filter sends a change exactly if it passes by the table. -/
theorem sends_iff_passes (filter : Filter) (change : Change) :
    filter.sends change = true ↔ Passes filter change := by
  cases enabled : filter.enabled with
  | false => simp [Filter.sends, Filter.examine, Passes, enabled, Finding.sends]
  | true =>
      by_cases ruled : change.kind ∈ ["Event", "Job", "Pod"]
      · rcases (mem_ruledKinds_iff change.kind).mp ruled with kind | ⟨workload, kind⟩
        · rw [sends_of_event enabled kind, passes_of_event enabled kind]
        · rw [sends_of_workload enabled kind, passes_of_workload enabled kind]
      · simp [sends_of_unruled enabled ruled, Passes, ruled]

end ChangeRelay.Admission
