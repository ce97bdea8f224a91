import ChangeRelay.Proofs.Admission.Decision
import ChangeRelay.Proofs.Tracker.Recall

/-!
# Tracked changes behind the filter

A watch sends the changes that its tracker reports and its filter lets through.
Whether a notification leads to a change that is sent is decided here from the
notification and from what is known when it comes, without the change between
them: its kind, its reason and the snapshots in it do not occur.
-/

namespace ChangeRelay.Admission

variable {resource : Resource}

/-- The tracker after a history reports a change for a notification, and a
filter that is on sends it. -/
def Sent (history : List (Notification resource)) (step : Notification resource) : Prop :=
  ∃ change, (Tracker.after history).report? step = some change ∧
    (Filter.mk true).sends change = true

/-! ## Notifications that are worth sending -/

/-- A notification about a Job or a Pod that is worth sending. -/
inductive WorkloadWorthy (workload : Workload)
    (known? : String → Option (Object workload.resource)) :
    Notification workload.resource → Prop where
  | deleted (object : Object workload.resource) : WorkloadWorthy workload known? (.deleted object)
  | unknown {object : Object workload.resource} (unknown : known? object.key = none) :
      WorkloadWorthy workload known? (.applied object)
  | specDiffers {object previous : Object workload.resource}
      (known : known? object.key = some previous)
      (differ : workload.specOf object ≠ workload.specOf previous) :
      WorkloadWorthy workload known? (.applied object)
  | significant {object : Object workload.resource}
      (significant : workload.Significant object) :
      WorkloadWorthy workload known? (.applied object)

/-- A notification about an Event object that is worth sending. -/
inductive EventWorthy (known? : String → Option (Object resource)) :
    Notification resource → Prop where
  | unknown {object : Object resource} (unknown : known? object.key = none)
      (matters : EventMatters object.datum) : EventWorthy known? (.applied object)

/-- A notification that an object has a new state or went away. -/
inductive TellsChange : Notification resource → Prop where
  | applied (object : Object resource) : TellsChange (.applied object)
  | deleted (object : Object resource) : TellsChange (.deleted object)

/-- A notification about an object of a resource that is worth sending when
these objects are known. -/
def Worthy : (resource : Resource) → (known? : String → Option (Object resource)) →
    Notification resource → Prop
  | .pods, known?, step => WorkloadWorthy .pod known? step
  | .jobs, known?, step => WorkloadWorthy .job known? step
  | .events, known?, step | .eventsV1, known?, step => EventWorthy known? step
  | .deployments, _, step | .daemonSets, _, step | .statefulSets, _, step | .services, _, step
  | .nodes, _, step => TellsChange step

/-! ## Changes of tracked objects -/

theorem Workload.kind_resource (workload : Workload) : workload.resource.kind = workload.kind := by
  cases workload <;> rfl

section Report

variable {history : List (Notification resource)} {step : Notification resource}

theorem sent_iff_of_report {change : Change}
    (reported : (Tracker.after history).report? step = some change) :
    Sent history step ↔ (Filter.mk true).sends change = true := by
  simp [Sent, reported]

theorem not_sent_of_silent (silent : (Tracker.after history).report? step = none) :
    ¬ Sent history step := by
  simp [Sent, silent]

end Report

/-! ## Jobs and Pods -/

section Workload

variable {workload : Workload}

theorem typed?_changeOf (reason : Reason) (object : Object workload.resource)
    (previous? : Option (Object workload.resource)) :
    (Tracker.changeOf reason object previous?).current.typed? workload.resource = some object :=
  (Snapshot.typed?_eq_some_iff workload _ object).mpr rfl

theorem bind_typed?_changeOf (reason : Reason) (object : Object workload.resource)
    (previous? : Option (Object workload.resource)) :
    (Tracker.changeOf reason object previous?).previous.bind
      (Snapshot.typed? workload.resource) = previous? := by
  cases previous? with
  | none => rfl
  | some previous => exact (Snapshot.typed?_eq_some_iff workload _ previous).mpr rfl

theorem sends_changeOf_iff (reason : Reason) (object : Object workload.resource)
    (previous? : Option (Object workload.resource)) :
    (Filter.mk true).sends (Tracker.changeOf reason object previous?) = true ↔
      WorkloadPasses workload (Tracker.changeOf reason object previous?) :=
  sends_of_workload rfl workload.kind_resource

theorem updatePasses_changeOf_iff (object previous : Object workload.resource) :
    UpdatePasses workload (Tracker.changeOf .updated object (some previous)) ↔
      workload.specOf object ≠ workload.specOf previous ∨ workload.Significant object := by
  rw [UpdatePasses, typed?_changeOf, bind_typed?_changeOf]
  simp

/-- A new state of a Job or a Pod is sent if the object is not known, if its
spec differs from the known one, or if its own status is significant. -/
theorem sent_applied_iff (history : List (Notification workload.resource))
    (object : Object workload.resource) :
    Sent history (.applied object) ↔
      WorkloadWorthy workload (Tracker.after history).known? (.applied object) := by
  cases known : (Tracker.after history).known? object.key with
  | none =>
      rw [sent_iff_of_report (Tracker.report?_applied_unknown known), sends_changeOf_iff]
      constructor
      · intro _
        exact .unknown known
      · intro _
        exact .inl rfl
  | some previous =>
      rw [sent_iff_of_report (Tracker.report?_applied_known known), sends_changeOf_iff]
      constructor
      · rintro (impossible | impossible | ⟨_, passes⟩)
        · cases impossible
        · cases impossible
        · rcases (updatePasses_changeOf_iff object previous).mp passes with differ | significant
          · exact .specDiffers known differ
          · exact .significant significant
      · -- A known object is no longer new, so the row for updates decides.
        intro worthy
        refine .inr (.inr ⟨rfl, (updatePasses_changeOf_iff object previous).mpr ?_⟩)
        cases worthy with
        | unknown unknown =>
            rw [known] at unknown
            contradiction
        | specDiffers other differ =>
            cases known.symm.trans other
            exact .inl differ
        | significant significant => exact .inr significant

theorem sent_deleted (history : List (Notification workload.resource))
    (object : Object workload.resource) : Sent history (.deleted object) := by
  rw [sent_iff_of_report (Tracker.report?_deleted _ object), sends_changeOf_iff]
  exact .inr (.inl rfl)

/-- A notification about a Job or a Pod leads to a change that is sent exactly
if it is worth it. -/
theorem sent_iff_workloadWorthy (workload : Workload)
    (history : List (Notification workload.resource)) (step : Notification workload.resource) :
    Sent history step ↔ WorkloadWorthy workload (Tracker.after history).known? step := by
  cases step with
  | listBegins | listed object | listEnds =>
      refine iff_of_false (not_sent_of_silent rfl) ?_
      rintro ⟨⟩
  | applied object => exact sent_applied_iff history object
  | deleted object =>
      constructor
      · intro _
        exact .deleted object
      · intro _
        exact sent_deleted history object

end Workload

/-! ## Event objects -/

/-- A notification about an Event object leads to a change that is sent exactly
if it is worth it. -/
theorem sent_iff_eventWorthy (kind : resource.kind = "Event")
    (typed : ∀ object : Object resource, (Snapshot.ofObject object).event? = some object.datum)
    (history : List (Notification resource)) (step : Notification resource) :
    Sent history step ↔ EventWorthy (Tracker.after history).known? step := by
  have sends (reason : Reason) (object : Object resource) (previous? : Option (Object resource)) :
      (Filter.mk true).sends (Tracker.changeOf reason object previous?) = true ↔
        reason = .created ∧ EventMatters object.datum := by
    rw [sends_of_event rfl kind, EventPasses]
    simp [Tracker.changeOf, typed]
  cases step with
  | listBegins | listed object | listEnds =>
      refine iff_of_false (not_sent_of_silent rfl) ?_
      rintro ⟨⟩
  | applied object =>
      cases known : (Tracker.after history).known? object.key with
      | none =>
          rw [sent_iff_of_report (Tracker.report?_applied_unknown known), sends]
          constructor
          · rintro ⟨_, matters⟩
            exact .unknown known matters
          · rintro ⟨_, matters⟩
            exact ⟨rfl, matters⟩
      | some previous =>
          rw [sent_iff_of_report (Tracker.report?_applied_known known), sends]
          constructor
          · rintro ⟨impossible, _⟩
            cases impossible
          · rintro ⟨unknown, _⟩
            rw [known] at unknown
            contradiction
  | deleted object =>
      rw [sent_iff_of_report (Tracker.report?_deleted _ object), sends]
      constructor
      · rintro ⟨impossible, _⟩
        cases impossible
      · rintro ⟨⟩

/-! ## Other objects -/

/-- Every change of an object without a rule is sent. -/
theorem sent_iff_tellsChange (unruled : resource.kind ∉ ["Event", "Job", "Pod"])
    (history : List (Notification resource)) (step : Notification resource) :
    Sent history step ↔ TellsChange step := by
  have sends (reason : Reason) (object : Object resource) (previous? : Option (Object resource)) :
      (Filter.mk true).sends (Tracker.changeOf reason object previous?) = true :=
    sends_of_unruled rfl unruled
  cases step with
  | listBegins | listed object | listEnds =>
      refine iff_of_false (not_sent_of_silent rfl) ?_
      rintro ⟨⟩
  | applied object =>
      have sent : Sent history (.applied object) := by
        cases known : (Tracker.after history).known? object.key with
        | none => exact ⟨_, Tracker.report?_applied_unknown known, sends _ _ _⟩
        | some previous => exact ⟨_, Tracker.report?_applied_known known, sends _ _ _⟩
      exact ⟨fun _ => .applied object, fun _ => sent⟩
  | deleted object =>
      exact ⟨fun _ => .deleted object, fun _ => ⟨_, Tracker.report?_deleted _ object, sends _ _ _⟩⟩

/-! ## All resources -/

/-- A notification leads to a change that is sent exactly if it is worth it,
whatever its resource is and whatever came before it.  A new state of a Job that
failed or of a Pod in trouble always is. -/
theorem tracked_changes_sent :
    (∀ (resource : Resource) (history : List (Notification resource))
        (step : Notification resource),
      Sent history step ↔ Worthy resource (Tracker.after history).known? step) ∧
    ∀ (workload : Workload) (history : List (Notification workload.resource))
        (object : Object workload.resource),
      workload.Significant object → Sent history (.applied object) := by
  constructor
  · intro resource history step
    cases resource with
    | pods => exact sent_iff_workloadWorthy .pod history step
    | jobs => exact sent_iff_workloadWorthy .job history step
    | events | eventsV1 => exact sent_iff_eventWorthy rfl (fun _ => rfl) history step
    | deployments | daemonSets | statefulSets | services | nodes =>
        exact sent_iff_tellsChange (by decide) history step
  · intro workload history object significant
    exact (sent_applied_iff history object).mpr (.significant significant)

/-- A Job with a condition that it failed. -/
def failedJob : Object .jobs :=
  (Object.read? .jobs (.obj [
    ("metadata", .obj [("name", .str "backup"), ("namespace", .str "prod")]),
    ("status", .obj [("conditions", .arr [
      .obj [("status", .str "False"), ("type", .str "Suspended")],
      .obj [("status", .str "True"), ("type", .str "Failed")]])])])).get rfl

/-- A Job that failed is sent once more when the same state comes again. -/
theorem tracked_changes_sent_failedJob :
    Workload.job.Significant failedJob ∧ Sent [.applied failedJob] (.applied failedJob) := by
  have failed : Workload.job.Significant failedJob :=
    ⟨_, rfl, _, List.mem_cons_of_mem _ (List.mem_singleton_self _), rfl, rfl⟩
  exact ⟨failed, tracked_changes_sent.2 .job [.applied failedJob] failedJob failed⟩

end ChangeRelay.Admission
