import ChangeRelay.Proofs.Admission.Decision
import ChangeRelay.Proofs.Schema.Refusal
import ChangeRelay.Proofs.Snapshot.NormalForm

/-!
# Malformed payloads are neither changed nor dropped

A payload that its kind refuses is kept as it is, and one entry tells so.  The rules
of the filter do not find in it what its kind promises, so they let it through, and
where they look for it they warn.  A payload that is accepted is kept with its types,
and a rule that looks into it finds what it looks for.

The filter warns exactly when a rule looks into an object and does not find what the
kind promises; this carries all that is said here about warnings.
-/

namespace ChangeRelay

open Schema

/-! ## Classification -/

namespace Snapshot

/-- A payload says that it comes from the events API. -/
def ComesFromEventsApi (value : Json) : Prop :=
  ∃ version, value.textAt? ["apiVersion"] = some version ∧
    "events.k8s.io/".toList <+: version.toList

/-- The resource as whose object a payload of a kind is read. -/
inductive ReadAs (value : Json) : String → Resource → Prop where
  | eventsV1 (comes : ComesFromEventsApi value) : ReadAs value "Event" .eventsV1
  | coreEvent (other : ¬ ComesFromEventsApi value) : ReadAs value "Event" .events
  | job : ReadAs value "Job" .jobs
  | pod : ReadAs value "Pod" .pods

theorem isFromEventsApi_iff (value : Json) :
    isFromEventsApi value = true ↔ ComesFromEventsApi value := by
  rw [isFromEventsApi, ComesFromEventsApi]
  cases value.textAt? ["apiVersion"] <;> simp

theorem typedResource?_eq_some_iff (kind : String) (value : Json) (resource : Resource) :
    typedResource? kind value = some resource ↔ ReadAs value kind resource := by
  have comes := isFromEventsApi_iff value
  constructor
  · intro typed
    unfold typedResource? at typed
    split at typed
    next event =>
      subst event
      split at typed <;> cases typed
      next found => exact .eventsV1 (comes.mp found)
      next other => exact .coreEvent fun found => other (comes.mpr found)
    next =>
      split at typed
      next job =>
        cases typed
        exact job ▸ .job
      next =>
        split at typed <;> cases typed
        next pod => exact pod ▸ .pod
  · intro readAs
    cases readAs with
    | eventsV1 found => simp [typedResource?, comes.mpr found]
    | coreEvent other => simp [typedResource?, mt comes.mp other]
    | job | pod => rfl

theorem typedResource?_eq_none_iff (kind : String) (value : Json) :
    typedResource? kind value = none ↔ kind ∉ ["Event", "Job", "Pod"] := by
  simp only [typedResource?, List.mem_cons, List.not_mem_nil, or_false, not_or]
  split
  · simp_all
  · split
    · simp_all
    · split <;> simp_all

/-- The entry about a payload that is kept as it is because its kind refuses it. -/
def keptOpaque (kind : String) : Log.Entry :=
  Log.debug "payload does not match its kind, keeping it opaque" [("kind", kind)]

variable {kind : String} {value : Json} {resource : Resource}

theorem classify_of_refused (readAs : ReadAs value kind resource)
    (refused : resource.shape.Refuses value) :
    classify kind value = (.other value, [keptOpaque kind]) := by
  have typed := (typedResource?_eq_some_iff kind value resource).mpr readAs
  have unread : Object.read? resource value = none := by
    have failed := (resource.shape.read?_eq_none_iff value).mpr refused
    rw [Option.eq_none_iff_forall_ne_some]
    intro object read
    rw [Object.read?_eq_some_iff, failed] at read
    cases read
  simp only [classify, typed, unread]
  rfl

theorem classify_of_accepted (readAs : ReadAs value kind resource)
    (accepted : ¬ resource.shape.Refuses value) :
    ∃ object : Object resource, Object.read? resource value = some object ∧
      classify kind value = (.ofObject object, []) := by
  have typed := (typedResource?_eq_some_iff kind value resource).mpr readAs
  rw [← Shape.read?_eq_none_iff, ← ne_eq, Option.ne_none_iff_exists'] at accepted
  obtain ⟨datum, datumRead⟩ := accepted
  have read : Object.read? resource value = some ⟨datum, resource.shape.fits_of_read? datumRead⟩ :=
    Object.read?_eq_some_iff.mpr datumRead
  refine ⟨_, read, ?_⟩
  simp only [classify, typed, read]

theorem classify_of_unruled (unruled : kind ∉ ["Event", "Job", "Pod"]) (value : Json) :
    classify kind value = (.other value, []) := by
  simp only [classify, (typedResource?_eq_none_iff kind value).mpr unruled]

/-- Every payload of the three kinds is read as an object of some resource. -/
theorem exists_readAs (ruled : kind ∈ ["Event", "Job", "Pod"]) (value : Json) :
    ∃ resource, ReadAs value kind resource := by
  cases typed : typedResource? kind value with
  | none => exact absurd ruled ((typedResource?_eq_none_iff kind value).mp typed)
  | some resource => exact ⟨resource, (typedResource?_eq_some_iff kind value resource).mp typed⟩

theorem ReadAs.kind_mem (readAs : ReadAs value kind resource) :
    kind ∈ ["Event", "Job", "Pod"] := by
  cases readAs <;> decide

/-- An object that a payload is read as is kept with its types. -/
theorem ReadAs.resource?_ofObject (readAs : ReadAs value kind resource)
    (object : Object resource) : (ofObject object).resource? = some resource := by
  cases readAs <;> rfl

end Snapshot

namespace Admission

open Snapshot (ReadAs)

/-! ## Warnings -/

/-- A rule did not find in an object what the kind promises. -/
def Finding.isUncast : Finding → Bool
  | .eventUncast _ | .uncast _ _ => true
  | _ => false

/-- Only a finding about such an object is warned about, and it is once. -/
theorem Finding.length_warnings (finding : Finding) :
    (Log.ofLevel .warn finding.log).length = if finding.isUncast then 1 else 0 := by
  cases finding <;> rfl

variable {change : Change} {workload : Workload}

theorem isUncast_examineEvent_iff (change : Change) :
    (examineEvent change).isUncast = true ↔
      change.reason = .created ∧ change.current.event? = none := by
  rw [examineEvent, eventTexts?_eq]
  by_cases created : change.reason = .created
  · cases change.current.event? with
    | none => simp [created, Finding.isUncast]
    | some event =>
        by_cases evicted : event.textField? "reason" = some "Evicted"
        · simp [created, evicted, Finding.isUncast]
        · by_cases warning : event.textField? "type" = some "Warning" <;>
            simp [created, evicted, warning, Finding.isUncast]
  · simp [created, Finding.isUncast]

theorem isUncast_examineStatus (name : String) (object : Object workload.resource) :
    (workload.examineStatus name object).isUncast = false := by
  cases workload with
  | job =>
      rw [Workload.examineStatus]
      split <;> rfl
  | pod =>
      rw [Workload.examineStatus]
      split <;> rfl

theorem isUncast_examineWorkload_iff (workload : Workload) (change : Change) :
    (examineWorkload workload.examineUpdate change).isUncast = true ↔
      change.reason = .updated ∧ change.current.typed? workload.resource = none := by
  rw [examineWorkload]
  cases change.reason with
  | created | deleted | other label => simp [Finding.isUncast]
  | updated =>
      cases typed : change.current.typed? workload.resource with
      | none => simp [Workload.examineUpdate_of_untyped typed, Finding.isUncast]
      | some current =>
          cases paired : change.previous.bind (Snapshot.typed? workload.resource) with
          | none => simp [Workload.examineUpdate_of_unpaired typed paired, Finding.isUncast]
          | some previous =>
              rw [Workload.examineUpdate_of_paired typed paired]
              by_cases differ : workload.specOf current = workload.specOf previous
              · simp [differ, isUncast_examineStatus]
              · simp [differ, Finding.isUncast]

/-! ## The boundary and the filter -/

/-- The rule of a kind looks into the object when this happened to it. -/
def LooksInto (kind : String) (reason : Reason) : Prop :=
  (kind = "Event" ∧ reason = .created) ∨ (kind ∈ ["Job", "Pod"] ∧ reason = .updated)

instance (kind : String) (reason : Reason) : Decidable (LooksInto kind reason) :=
  inferInstanceAs (Decidable (_ ∨ _))

theorem looksInto_event_iff (reason : Reason) :
    LooksInto "Event" reason ↔ reason = .created := by
  simp [LooksInto]

theorem looksInto_workload_iff (workload : Workload) (reason : Reason) :
    LooksInto workload.kind reason ↔ reason = .updated := by
  cases workload <;> simp [LooksInto, Workload.kind]

variable {filter : Filter} {kind : String} {resource : Resource}

/-- What is opaque is not what its kind promises. -/
theorem isUncast_examine_opaque_iff (enabled : filter.enabled = true)
    (ruled : kind ∈ ["Event", "Job", "Pod"]) (reason : Reason) (value : Json)
    (previous : Option Snapshot) :
    (filter.examine ⟨kind, reason, .other value, previous⟩).isUncast = true ↔
      LooksInto kind reason := by
  rcases (mem_ruledKinds_iff kind).mp ruled with rfl | ⟨workload, rfl⟩
  · rw [examine_of_event enabled rfl, isUncast_examineEvent_iff, looksInto_event_iff]
    exact and_iff_left rfl
  · rw [examine_of_workload enabled rfl, isUncast_examineWorkload_iff, looksInto_workload_iff]
    cases workload <;> exact and_iff_left rfl

/-- An object that a payload was read as is what its kind promises. -/
theorem isUncast_examine_ofObject {value : Json} (readAs : ReadAs value kind resource)
    (filter : Filter) (reason : Reason) (object : Object resource) (previous : Option Snapshot) :
    (filter.examine ⟨kind, reason, .ofObject object, previous⟩).isUncast = false := by
  cases enabled : filter.enabled with
  | false => simp [Filter.examine, enabled, Finding.isUncast]
  | true =>
      rw [Bool.eq_false_iff]
      cases readAs with
      | eventsV1 | coreEvent =>
          rw [examine_of_event enabled rfl, ne_eq, isUncast_examineEvent_iff]
          rintro ⟨-, ⟨⟩⟩
      | job =>
          rw [examine_of_workload enabled (rfl : _ = Workload.job.kind), ne_eq,
            isUncast_examineWorkload_iff]
          rintro ⟨-, ⟨⟩⟩
      | pod =>
          rw [examine_of_workload enabled (rfl : _ = Workload.pod.kind), ne_eq,
            isUncast_examineWorkload_iff]
          rintro ⟨-, ⟨⟩⟩

/-- What is opaque is sent when its rule looks into it, and so is the whole lifecycle of
a workload. -/
theorem sends_opaque (enabled : filter.enabled = true) {reason : Reason}
    (matters : (kind = "Event" ∧ reason = .created) ∨
      (kind ∈ ["Job", "Pod"] ∧ reason ∈ [.created, .updated, .deleted]))
    (value : Json) (previous : Option Snapshot) :
    filter.sends ⟨kind, reason, .other value, previous⟩ = true := by
  rcases matters with ⟨rfl, rfl⟩ | ⟨ofWorkload, known⟩
  · exact (sends_of_event enabled rfl).mpr ⟨rfl, .inl rfl⟩
  · obtain ⟨workload, rfl⟩ : ∃ workload : Workload, kind = workload.kind := by
      simp only [List.mem_cons, List.not_mem_nil, or_false] at ofWorkload
      rcases ofWorkload with rfl | rfl
      · exact ⟨.job, rfl⟩
      · exact ⟨.pod, rfl⟩
    have untyped : (Snapshot.other value).typed? workload.resource = none := by
      cases workload <;> rfl
    simp only [List.mem_cons, List.not_mem_nil, or_false] at known
    rw [sends_of_workload enabled rfl]
    rcases known with rfl | rfl | rfl
    · exact .inl rfl
    · exact .inr (.inr ⟨rfl, .inl untyped⟩)
    · exact .inr (.inl rfl)

/-- A payload that its kind refuses is kept as it is, with one entry, and is sent with a
warning where the rule looks into it.  One that is accepted is kept with its types, and
nobody warns about it.  A payload of another kind is kept as it is, and always sent. -/
theorem malformed_payloads_are_kept_and_sent (kind : String) (value : Json) :
    (kind ∈ ["Event", "Job", "Pod"] → ∃ resource, ReadAs value kind resource) ∧
    (∀ resource, ReadAs value kind resource → resource.shape.Refuses value →
      Snapshot.classify kind value = (.other value, [Snapshot.keptOpaque kind]) ∧
      ∀ (filter : Filter) (reason : Reason) (previous : Option Snapshot),
        filter.enabled = true →
          ((kind = "Event" ∧ reason = .created) ∨
              (kind ∈ ["Job", "Pod"] ∧ reason ∈ [.created, .updated, .deleted]) →
            filter.sends ⟨kind, reason, .other value, previous⟩ = true) ∧
          (Log.ofLevel .warn
              (filter.examine ⟨kind, reason, .other value, previous⟩).log).length =
            if LooksInto kind reason then 1 else 0) ∧
    (∀ resource, ReadAs value kind resource → ¬ resource.shape.Refuses value →
      ∃ object : Object resource, Object.read? resource value = some object ∧
        Snapshot.classify kind value = (.ofObject object, []) ∧
        (Snapshot.ofObject object).resource? = some resource ∧
        ∀ (filter : Filter) (reason : Reason) (previous : Option Snapshot),
          Log.ofLevel .warn
            (filter.examine ⟨kind, reason, .ofObject object, previous⟩).log = []) ∧
    (kind ∉ ["Event", "Job", "Pod"] →
      Snapshot.classify kind value = (.other value, []) ∧
      ∀ (filter : Filter) (reason : Reason) (previous : Option Snapshot),
        filter.sends ⟨kind, reason, .other value, previous⟩ = true) := by
  refine ⟨fun ruled => Snapshot.exists_readAs ruled value, ?_, ?_, ?_⟩
  · intro resource readAs refused
    have ruled := readAs.kind_mem
    refine ⟨Snapshot.classify_of_refused readAs refused, fun filter reason previous enabled => ?_⟩
    refine ⟨fun matters => sends_opaque enabled matters value previous, ?_⟩
    simp only [Finding.length_warnings,
      isUncast_examine_opaque_iff enabled ruled reason value previous]
  · intro resource readAs accepted
    obtain ⟨object, read, classified⟩ := Snapshot.classify_of_accepted readAs accepted
    refine ⟨object, read, classified, readAs.resource?_ofObject object, ?_⟩
    intro filter reason previous
    rw [← List.length_eq_zero_iff, Finding.length_warnings,
      isUncast_examine_ofObject readAs filter reason object previous]
    rfl
  · intro unruled
    refine ⟨Snapshot.classify_of_unruled unruled value, fun filter reason previous => ?_⟩
    cases enabled : filter.enabled with
    | false => simp [Filter.sends, Filter.examine, enabled, Finding.sends]
    | true => exact sends_of_unruled enabled unruled

/-! ## A Pod that counts its restarts in words -/

/-- A Pod with a fault deep within its status. -/
def wordyPod : Json :=
  .obj [("metadata", .obj [("name", .str "web")]),
    ("status", .obj [("containerStatuses", .arr [.obj [("image", .str "nginx"),
      ("imageID", .str ""), ("name", .str "nginx"), ("ready", .bool true),
      ("restartCount", .str "two")]])])]

/-- The Pod is kept as it is, and an update of it is sent with one warning. -/
theorem malformed_payloads_are_kept_and_sent_wordyPod :
    ReadAs wordyPod "Pod" .pods ∧ Resource.pods.shape.Refuses wordyPod ∧
      Snapshot.classify "Pod" wordyPod = (.other wordyPod, [Snapshot.keptOpaque "Pod"]) ∧
      (Filter.mk true).sends ⟨"Pod", .updated, .other wordyPod, none⟩ = true ∧
      (Log.ofLevel .warn
        ((Filter.mk true).examine ⟨"Pod", .updated, .other wordyPod, none⟩).log).length = 1 := by
  have refused : Resource.pods.shape.Refuses wordyPod :=
    (Schema.Shape.read?_eq_none_iff _ _).mp rfl
  obtain ⟨-, ofRefused, -, -⟩ := malformed_payloads_are_kept_and_sent "Pod" wordyPod
  obtain ⟨classified, decided⟩ := ofRefused .pods .pod refused
  obtain ⟨sent, warned⟩ := decided (Filter.mk true) .updated none rfl
  exact ⟨.pod, refused, classified, sent (.inr (by decide)), warned⟩

end Admission

end ChangeRelay
