import ChangeRelay.Proofs.Admission.Passage

/-!
# No drift behind the filter

The filter compares a new state of a Job or a Pod with the state before it only.
Steps that each change nothing still might add up to a change, if the states
compared were not those in a row or the comparison were not transitive.  They do
not: the spec that was sent last is the spec that is known, for as long as only
dropped changes follow and no listing replaces what is known.
-/

namespace ChangeRelay.Admission

open History

/-- The notification leads to a change that is sent, and that shows this object
as new or updated. -/
def SentState {resource : Resource} (history : List (Notification resource))
    (step : Notification resource) (object : Object resource) : Prop :=
  ∃ change, (Tracker.after history).report? step = some change ∧
    (Filter.mk true).sends change = true ∧
    (change.reason = .created ∨ change.reason = .updated) ∧ change.current = .ofObject object

/-- The notification leads to a change for a key that is sent, or completes a
listing. -/
def Disturbs {resource : Resource} (key : String) (history : List (Notification resource))
    (step : Notification resource) : Prop :=
  (step.Concerns key ∧ Sent history step) ∨ CompletesListing history step

variable {workload : Workload}

theorem ofObject_injective {first second : Object workload.resource}
    (same : Snapshot.ofObject first = Snapshot.ofObject second) : first = second := by
  have typed := (Snapshot.typed?_eq_some_iff workload _ second).mpr same
  rw [(Snapshot.typed?_eq_some_iff workload _ first).mpr rfl] at typed
  exact Option.some.inj typed

/-- Only a new state of an object shows it as new or updated. -/
theorem SentState.eq_applied {history : List (Notification workload.resource)}
    {step : Notification workload.resource} {object : Object workload.resource}
    (sent : SentState history step object) : step = .applied object := by
  obtain ⟨change, reported, _, reason, current⟩ := sent
  cases step with
  | listBegins | listed other | listEnds => cases reported
  | deleted other =>
      cases reported
      rcases reason with impossible | impossible <;> cases impossible
  | applied other =>
      cases known : (Tracker.after history).known? other.key with
      | none =>
          rw [Tracker.report?_applied_unknown known] at reported
          cases reported
          rw [ofObject_injective current]
      | some previous =>
          rw [Tracker.report?_applied_known known] at reported
          cases reported
          rw [ofObject_injective current]

/-- A new state that is dropped has the spec that was known before it, and shows
nothing significant. -/
theorem known?_of_not_sent {history : List (Notification workload.resource)}
    {object : Object workload.resource} (dropped : ¬ Sent history (.applied object)) :
    ∃ previous, (Tracker.after history).known? object.key = some previous ∧
      workload.specOf object = workload.specOf previous ∧ ¬ workload.Significant object := by
  rw [sent_applied_iff] at dropped
  cases known : (Tracker.after history).known? object.key with
  | none => exact absurd (.unknown known) dropped
  | some previous =>
      refine ⟨previous, rfl, ?_, fun significant => dropped (.significant significant)⟩
      by_contra differ
      exact dropped (.specDiffers known differ)

/-- A step that does not disturb a key leaves an object known for it, with the
same spec.  If the step concerned the key, the object shows nothing significant,
and otherwise it is still the same object. -/
theorem known?_next_of_not_disturbs {key : String}
    {history : List (Notification workload.resource)} {step : Notification workload.resource}
    {held : Object workload.resource} (known : (Tracker.after history).known? key = some held)
    (undisturbed : ¬ Disturbs key history step) :
    ∃ object, ((Tracker.after history).next step).known? key = some object ∧
      workload.specOf object = workload.specOf held ∧
      ((step.Concerns key ∧ ¬ workload.Significant object) ∨
        (¬ step.Concerns key ∧ object = held)) := by
  by_cases concerns : step.Concerns key
  · have dropped : ¬ Sent history step := fun sent => undisturbed (.inl ⟨concerns, sent⟩)
    cases step with
    | listBegins | listed object | listEnds => exact concerns.elim
    | deleted object => exact absurd (sent_deleted history object) dropped
    | applied object =>
        cases concerns
        obtain ⟨previous, knownBefore, unchanged, calm⟩ := known?_of_not_sent dropped
        rw [known] at knownBefore
        cases knownBefore
        exact ⟨object, Store.get?_insert_self _ _ _, unchanged, .inl ⟨rfl, calm⟩⟩
  · have undecided : ¬ Decides key history step := by
      rintro (concerned | completes)
      · exact concerns concerned
      · exact undisturbed (.inr completes)
    refine ⟨held, ?_, rfl, .inr ⟨concerns, rfl⟩⟩
    rw [known?_next_of_not_decides undecided, known]

/-- What was sent about the spec of a Job or a Pod stays true.  After a change
that was sent with a new state, as long as every change for its key is dropped
and no listing is completed, the known object has the spec that was sent, and
once a change was dropped nothing about the known object is significant. -/
theorem sent_spec_stays_known (workload : Workload)
    (before later : List (Notification workload.resource))
    (step : Notification workload.resource) (object : Object workload.resource)
    (sent : SentState before step object)
    (quiet : Never (fun middle => Disturbs object.key (before ++ step :: middle)) later) :
    ∃ held, (Tracker.after (before ++ step :: later)).known? object.key = some held ∧
      workload.specOf held = workload.specOf object ∧
      ((∃ next ∈ later, next.Concerns object.key) → ¬ workload.Significant held) := by
  cases sent.eq_applied
  -- The course after the change grows at its end, and each step keeps the spec.
  induction later using List.reverseRecOn with
  | nil =>
      refine ⟨object, ?_, rfl, by simp⟩
      rw [Tracker.after_concat]
      exact Store.get?_insert_self _ _ _
  | append_singleton later next ih =>
      rw [never_concat_iff] at quiet
      obtain ⟨quiet, undisturbed⟩ := quiet
      obtain ⟨held, known, sameSpec, calm⟩ := ih quiet
      obtain ⟨current, knownNext, unchanged, outcome⟩ :=
        known?_next_of_not_disturbs known undisturbed
      rw [← List.cons_append, ← List.append_assoc, Tracker.after_concat]
      refine ⟨current, knownNext, unchanged.trans sameSpec, ?_⟩
      rintro ⟨other, member, concerns⟩
      -- A step that does not concern the key leaves the object, and what was dropped came earlier.
      rcases outcome with ⟨_, insignificant⟩ | ⟨unconcerned, rfl⟩
      · exact insignificant
      · rcases List.mem_append.mp member with earlier | last
        · exact calm ⟨other, earlier, concerns⟩
        · rw [List.mem_singleton.mp last] at concerns
          exact absurd concerns unconcerned

/-! ## A Pod whose updates are dropped -/

/-- The metadata of one Pod. -/
def podIdentity : String × Json :=
  ("metadata", .obj [("uid", .str "7")])

/-- A spec of the Pod. -/
def restartingSpec : String × Json :=
  ("spec", .obj [("restartPolicy", .str "Always")])

/-- The Pod without a spec. -/
def barePod : Object .pods :=
  (Object.read? .pods (.obj [podIdentity])).get rfl

/-- The Pod with a spec. -/
def specifiedPod : Object .pods :=
  (Object.read? .pods (.obj [podIdentity, restartingSpec])).get rfl

/-- The Pod with the same spec, as it runs. -/
def runningPod : Object .pods :=
  (Object.read? .pods (.obj [podIdentity, restartingSpec,
    ("status", .obj [("phase", .str "Running")])])).get rfl

/-- The Pod runs, while a listing begins that does not end. -/
def quietCourse : List (Notification .pods) :=
  [.listBegins, .applied runningPod]

/-- What was sent about the spec of the Pod is still known after the course. -/
theorem sent_spec_stays_known_runningPod :
    SentState [.applied barePod] (.applied specifiedPod) specifiedPod ∧
      Never (fun middle => Disturbs specifiedPod.key
        ([.applied barePod] ++ .applied specifiedPod :: middle)) quietCourse ∧
      ∃ held, (Tracker.after ([.applied barePod] ++ .applied specifiedPod :: quietCourse)).known?
          specifiedPod.key = some held ∧
        Workload.pod.specOf held = Workload.pod.specOf specifiedPod ∧
        ((∃ next ∈ quietCourse, next.Concerns specifiedPod.key) →
          ¬ Workload.pod.Significant held) := by
  have sent : SentState [.applied barePod] (.applied specifiedPod) specifiedPod :=
    ⟨_, rfl, by decide, .inr rfl, rfl⟩
  have quiet : Never (fun middle => Disturbs specifiedPod.key
      ([.applied barePod] ++ .applied specifiedPod :: middle)) quietCourse := by
    refine (never_concat_iff _ [Notification.listBegins] _).mpr
      ⟨(never_concat_iff _ [] _).mpr ⟨never_nil _, ?_⟩, ?_⟩
    · rintro (⟨impossible, _⟩ | ⟨⟨⟩, _⟩)
      exact impossible.elim
    · rintro (⟨_, change, reported, sends⟩ | ⟨⟨⟩, _⟩)
      cases reported
      revert sends
      decide
  exact ⟨sent, quiet, sent_spec_stays_known .pod [.applied barePod] quietCourse
    (.applied specifiedPod) specifiedPod sent quiet⟩

end ChangeRelay.Admission
