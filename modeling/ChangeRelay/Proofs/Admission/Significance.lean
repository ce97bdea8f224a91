import ChangeRelay.Proofs.Admission.Table

/-!
# Reports and objects

The rules look at what a Job or a Pod reports about itself, the table looks at
the object.  Both see the same: a report tells of a failure or shows a signal
exactly if the object does.
-/

namespace ChangeRelay

open Schema

/-! ## Paths of fields -/

namespace Schema.Datum

theorem path?_nil (datum : Datum) : datum.path? [] = some datum :=
  rfl

theorem path?_cons (name : String) (rest : List String) (datum : Datum) :
    datum.path? (name :: rest) = (datum.get? name).bind (path? rest) :=
  rfl

theorem textField?_eq_some_iff (name text : String) (datum : Datum) :
    datum.textField? name = some text ↔ datum.path? [name] = some (.text text) := by
  rw [textField?, path?_cons]
  cases datum.get? name with
  | none => simp
  | some value => cases value <;> simp [text?, path?_nil]

theorem mem_itemsField_iff (name : String) (item datum : Datum) :
    item ∈ datum.itemsField name ↔
      ∃ items, datum.path? [name] = some (.list items) ∧ item ∈ items := by
  rw [itemsField, path?_cons]
  cases datum.get? name with
  | none => simp
  | some value => cases value <;> simp [items, path?_nil]

end Schema.Datum

namespace Snapshot

theorem typed?_eq_some_iff (workload : Admission.Workload) (snapshot : Snapshot)
    (object : Object workload.resource) :
    snapshot.typed? workload.resource = some object ↔ snapshot = .ofObject object := by
  constructor
  · intro typed
    cases workload <;> cases snapshot <;> cases typed <;> rfl
  · rintro rfl
    cases workload <;> rfl

end Snapshot

namespace Admission

/-! ## Reports and objects -/

theorem isFailure_ofDatum_iff (condition : Datum) :
    (JobCondition.ofDatum condition).isFailure = true ↔
      condition.path? ["type"] = some (.text "Failed") ∧
        condition.path? ["status"] = some (.text "True") := by
  simp [JobCondition.isFailure, JobCondition.ofDatum, Option.getD_eq_iff,
    Datum.textField?_eq_some_iff]

/-- The report of a Job tells of a failure exactly if the Job has failed. -/
theorem hasFailed_iff (job : Object .jobs) :
    (JobReport.of job).hasFailed = true ↔ JobFailed job := by
  rw [JobFailed, JobReport.hasFailed, JobReport.of, Object.get?, Datum.path?_cons]
  cases job.datum.get? "status" with
  | none => simp
  | some status =>
      simp only [Option.bind_some, List.any_map, List.any_eq_true, Function.comp_apply,
        Datum.mem_itemsField_iff, isFailure_ofDatum_iff]
      constructor
      · rintro ⟨condition, ⟨conditions, listed, member⟩, failed⟩
        exact ⟨conditions, listed, condition, member, failed⟩
      · rintro ⟨conditions, listed, condition, member, failed⟩
        exact ⟨condition, ⟨conditions, listed, member⟩, failed⟩

theorem stateReason?_eq_some_iff (state record reason : String) (container : Datum) :
    ContainerReport.stateReason? state record container = some reason ↔
      container.path? [state, record, "reason"] = some (.text reason) := by
  rw [ContainerReport.stateReason?, Datum.path?_cons]
  cases container.get? state with
  | none => simp
  | some held =>
      rw [Option.bind_some, Option.bind_some, Datum.path?_cons]
      cases held.get? record with
      | none => simp
      | some entry => exact Datum.textField?_eq_some_iff "reason" reason entry

theorem hasRestarted_ofStatus_iff (container : Datum) :
    (ContainerReport.ofStatus container).hasRestarted = true ↔
      ∃ count : Int, container.path? ["restartCount"] = some (.int count) ∧ 0 < count := by
  rw [ContainerReport.hasRestarted, decide_eq_true_iff, ContainerReport.ofStatus,
    Datum.path?_cons]
  cases container.get? "restartCount" with
  | none => simp
  | some held => cases held <;> simp [Datum.int?, Datum.path?_nil]

theorem isBackingOff_ofStatus_iff (container : Datum) :
    (ContainerReport.ofStatus container).isBackingOff = true ↔
      container.path? ["state", "waiting", "reason"] = some (.text "ImagePullBackOff") := by
  rw [← stateReason?_eq_some_iff]
  simp [ContainerReport.isBackingOff, ContainerReport.ofStatus]

theorem isOomKilled_ofStatus_iff (container : Datum) :
    (ContainerReport.ofStatus container).isOomKilled = true ↔
      container.path? ["state", "terminated", "reason"] = some (.text "OOMKilled") ∨
        container.path? ["lastState", "terminated", "reason"] = some (.text "OOMKilled") := by
  rw [← stateReason?_eq_some_iff, ← stateReason?_eq_some_iff]
  simp [ContainerReport.isOomKilled, ContainerReport.ofStatus]

/-- The containers of a report are those of the Pod. -/
theorem any_containers_iff {pod : Object .pods} {status : Datum}
    (found : pod.datum.get? "status" = some status) (holds : ContainerReport → Bool) :
    (PodReport.ofStatus status).containers.any holds = true ↔
      ∃ container, HasContainer pod container ∧
        holds (ContainerReport.ofStatus container) = true := by
  simp [PodReport.ofStatus, HasContainer, Datum.path?_cons _ [_], found,
    Datum.mem_itemsField_iff, or_and_right, exists_or]

/-- The report of a Pod tells of an eviction exactly if the Pod shows one. -/
theorem isEvicted_ofStatus_iff {pod : Object .pods} {status : Datum}
    (found : pod.datum.get? "status" = some status) :
    (PodReport.ofStatus status).isEvicted = true ↔ PodShows pod .evicted := by
  have atStatus (name text : String) :
      status.textField? name = some text ↔
        pod.datum.path? ["status", name] = some (.text text) := by
    rw [Datum.textField?_eq_some_iff, Datum.path?_cons "status", found, Option.bind_some]
  simp only [PodReport.isEvicted, PodReport.ofStatus, Bool.or_eq_true, Bool.and_eq_true,
    beq_iff_eq, Option.any_eq_true, Text.mentions, Text.occursIn_iff_isInfix, atStatus]
  constructor
  · rintro (⟨phase, reason⟩ | ⟨message, told, mentions⟩)
    · exact .evictedForReason phase reason
    · exact .evictedByMessage told mentions
  · intro shows
    cases shows with
    | evictedForReason phase reason => exact .inl ⟨phase, reason⟩
    | evictedByMessage told mentions => exact .inr ⟨_, told, mentions⟩

/-- The report of a Pod shows a signal exactly if the Pod shows it. -/
theorem shows_ofStatus_iff {pod : Object .pods} {status : Datum}
    (found : pod.datum.get? "status" = some status) (signal : Signal) :
    (PodReport.ofStatus status).shows signal = true ↔ PodShows pod signal := by
  cases signal with
  | evicted => exact isEvicted_ofStatus_iff found
  | restarted =>
      simp only [PodReport.shows, any_containers_iff found, hasRestarted_ofStatus_iff]
      constructor
      · rintro ⟨container, has, count, restarts, positive⟩
        exact .restarted has restarts positive
      · intro shows
        cases shows with
        | restarted has restarts positive => exact ⟨_, has, _, restarts, positive⟩
  | imagePullBackOff =>
      simp only [PodReport.shows, any_containers_iff found, isBackingOff_ofStatus_iff]
      constructor
      · rintro ⟨container, has, waits⟩
        exact .imagePullBackOff has waits
      · intro shows
        cases shows with
        | imagePullBackOff has waits => exact ⟨_, has, waits⟩
  | oomKilled =>
      simp only [PodReport.shows, any_containers_iff found, isOomKilled_ofStatus_iff]
      constructor
      · rintro ⟨container, has, ended | ended⟩
        · exact .oomKilled has ended
        · exact .oomKilledBefore has ended
      · intro shows
        cases shows with
        | oomKilled has ended => exact ⟨_, has, .inl ended⟩
        | oomKilledBefore has ended => exact ⟨_, has, .inr ended⟩

/-- A Pod that shows a signal has a status. -/
theorem PodShows.hasStatus {pod : Object .pods} {signal : Signal} (shows : PodShows pod signal) :
    ∃ status, pod.datum.get? "status" = some status := by
  cases found : pod.datum.get? "status" with
  | some status => exact ⟨status, rfl⟩
  | none =>
      -- Every constructor reads below the status.
      have nothing (rest : List String) : pod.datum.path? ("status" :: rest) = none := by
        rw [Datum.path?_cons, found, Option.bind_none]
      cases shows <;> simp_all [HasContainer]

/-- The rule for updates finds no signal exactly if the Pod shows none. -/
theorem signal?_eq_none_iff (pod : Object .pods) :
    (PodReport.of? pod).bind PodReport.signal? = none ↔ ¬ ∃ signal, PodShows pod signal := by
  rw [PodReport.of?, Object.get?, not_exists]
  cases found : pod.datum.get? "status" with
  | none =>
      simp only [Option.map_none, Option.bind_none, true_iff]
      intro signal shows
      obtain ⟨status, held⟩ := shows.hasStatus
      rw [found] at held
      contradiction
  | some status =>
      rw [Option.map_some, Option.bind_some, PodReport.signal?, List.find?_eq_none]
      constructor
      · intro silent signal shows
        have listed : signal ∈ Signal.all := by
          cases signal <;> decide
        exact silent signal listed ((shows_ofStatus_iff found signal).mpr shows)
      · intro silent signal _ shows
        exact silent signal ((shows_ofStatus_iff found signal).mp shows)

end Admission

end ChangeRelay
