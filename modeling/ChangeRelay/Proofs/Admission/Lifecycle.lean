import ChangeRelay.Proofs.Admission.Drift
import ChangeRelay.Proofs.Tracker.Isolation

/-!
# The lives of objects behind the filter

An object is created, then updated any number of times, and then deleted, and it may
be created again.  As long as no listing replaces what a tracker knows, the changes
that it reports for a key keep this order: the object is known while it lives.

The filter drops updates of Jobs and Pods only.  What is left after dropping updates
is again in this order, so the changes that are sent tell a life without a gap.
-/

namespace ChangeRelay.Admission

open History

/-! ## Lives -/

/-- The reasons of changes for one object, in an order in which it can live.  The
flag says whether the object is there before the first of them.  It may also go
away without having been there: a deletion is told of any object. -/
inductive Life : Bool → List Reason → Prop where
  | done (alive : Bool) : Life alive []
  | created {rest : List Reason} (later : Life true rest) : Life false (.created :: rest)
  | updated {rest : List Reason} (later : Life true rest) : Life true (.updated :: rest)
  | deleted {alive : Bool} {rest : List Reason} (later : Life false rest) :
      Life alive (.deleted :: rest)

namespace Life

/-- What remains of a life is a life. -/
theorem later {alive : Bool} {first second : List Reason} (life : Life alive (first ++ second)) :
    ∃ stillAlive, Life stillAlive second := by
  induction first generalizing alive with
  | nil => exact ⟨alive, life⟩
  | cons reason first ih =>
      cases life with
      | created life | updated life | deleted life => exact ih life

/-- An object that is there goes away before it is created. -/
theorem deleted_mem {between rest : List Reason} (life : Life true (between ++ .created :: rest)) :
    .deleted ∈ between := by
  induction between with
  | nil => cases life
  | cons reason between ih =>
      cases life with
      | updated life => exact List.mem_cons_of_mem _ (ih life)
      | deleted life => exact List.mem_cons_self

/-- An object that is not there is created before it is updated. -/
theorem created_mem {between rest : List Reason} (life : Life false (between ++ .updated :: rest)) :
    .created ∈ between := by
  induction between with
  | nil => cases life
  | cons reason between ih =>
      cases life with
      | created life => exact List.mem_cons_self
      | deleted life => exact List.mem_cons_of_mem _ (ih life)

/-- Between two creations there is a deletion. -/
theorem deleted_between {alive : Bool} {front between rest : List Reason}
    (life : Life alive (front ++ .created :: (between ++ .created :: rest))) :
    .deleted ∈ between := by
  obtain ⟨_, life⟩ := life.later
  cases life with
  | created life => exact life.deleted_mem

/-- Between a deletion and a later update there is a creation. -/
theorem created_between {alive : Bool} {front between rest : List Reason}
    (life : Life alive (front ++ .deleted :: (between ++ .updated :: rest))) :
    .created ∈ between := by
  obtain ⟨_, life⟩ := life.later
  cases life with
  | deleted life => exact life.created_mem

end Life

/-! ## Stretches without a completed listing -/

section Stretch

variable {resource : Resource}

/-- The known object of a key outlives a notification that neither concerns the key
nor completes a listing. -/
theorem known?_concat_of_not_concerns {key : String}
    {before : List (Notification resource)} {step : Notification resource}
    (unconcerned : ¬ step.Concerns key) (unlisted : ¬ CompletesListing before step) :
    (Tracker.after (before ++ [step])).known? key = (Tracker.after before).known? key := by
  rw [Tracker.after_concat]
  apply known?_next_of_not_decides
  rintro (concerns | completes)
  · exact unconcerned concerns
  · exact unlisted completes

/-- A stretch of notifications in which no listing is completed.  Listings may have
begun before it. -/
def Unlisted (before stretch : List (Notification resource)) : Prop :=
  Never (fun between => CompletesListing (before ++ between)) stretch

theorem Unlisted.uncons {before stretch : List (Notification resource)}
    {step : Notification resource} (unlisted : Unlisted before (step :: stretch)) :
    ¬ CompletesListing before step ∧ Unlisted (before ++ [step]) stretch := by
  obtain ⟨first, later⟩ := (never_cons_iff _ step stretch).mp unlisted
  rw [List.append_nil] at first
  refine ⟨first, ?_⟩
  simpa only [Unlisted, List.append_assoc, List.singleton_append] using later

end Stretch

/-! ## Changes that are sent for a key -/

/-- The changes that a filter that is on lets through, of some changes. -/
def sentOf (changes : List Change) : List Change :=
  changes.filter (Filter.mk true).sends

/-- The changes that are not updates. -/
def turningPoints (changes : List Change) : List Change :=
  changes.filter fun change => change.reason ≠ .updated

variable {workload : Workload}

/-- A creation or a deletion is sent. -/
theorem sends_turningPoint {reason : Reason} (turns : reason = .created ∨ reason = .deleted)
    (object : Object workload.resource) :
    (Filter.mk true).sends (Tracker.changeOf reason object none) = true :=
  (sends_changeOf_iff reason object none).mpr (turns.imp_right .inl)

theorem sentOf_cons_turningPoint {reason : Reason}
    (turns : reason = .created ∨ reason = .deleted) (object : Object workload.resource)
    (changes : List Change) :
    sentOf (Tracker.changeOf reason object none :: changes) =
      Tracker.changeOf reason object none :: sentOf changes :=
  List.filter_cons_of_pos (sends_turningPoint turns object)

/-- Only updates are dropped. -/
theorem sends_of_reported {tracker : Tracker workload.resource}
    {step : Notification workload.resource} {change : Change}
    (reported : tracker.report? step = some change) (turns : change.reason ≠ .updated) :
    (Filter.mk true).sends change = true := by
  cases step with
  | listBegins | listed object | listEnds => cases reported
  | deleted object =>
      cases reported
      exact sends_turningPoint (.inr rfl) object
  | applied object =>
      cases known : tracker.known? object.key with
      | none =>
          rw [Tracker.report?_applied_unknown known] at reported
          cases reported
          exact sends_turningPoint (.inl rfl) object
      | some previous =>
          rw [Tracker.report?_applied_known known] at reported
          cases reported
          exact absurd rfl turns

/-- Every creation and every deletion of those that a tracker reports is sent, and they
keep their order. -/
theorem turningPoints_sentOf {tracker : Tracker workload.resource}
    {course : List (Notification workload.resource)} {changes : List Change}
    (reported : changes ⊆ tracker.reports course) :
    turningPoints (sentOf changes) = turningPoints changes := by
  rw [turningPoints, sentOf, List.filter_filter]
  refine List.filter_congr fun change member => ?_
  by_cases turns : change.reason ≠ .updated
  · obtain ⟨_, _, report⟩ := Tracker.exists_report?_of_mem_reports (reported member)
    simp [turns, sends_of_reported report turns]
  · simp [turns]

/-- As long as no listing is completed, the changes that are sent for a key tell the
life of its object, from whether it is known. -/
theorem life_sentOf (key : String) {before stretch : List (Notification workload.resource)}
    (unlisted : Unlisted before stretch) :
    Life ((Tracker.after before).known? key).isSome
      ((sentOf ((Tracker.after before).reportsOf key stretch)).map Change.reason) := by
  induction stretch generalizing before with
  | nil => exact .done _
  | cons step stretch ih =>
      obtain ⟨here, unlisted⟩ := unlisted.uncons
      have life := ih unlisted
      rw [Tracker.reportsOf, ← Tracker.after_concat]
      by_cases concerns : step.Concerns key
      · rw [if_pos concerns]
        cases step with
        | listBegins | listed object | listEnds => exact concerns.elim
        | deleted object =>
            cases concerns
            have gone : (Tracker.after (before ++ [.deleted object])).known? object.key = none := by
              rw [Tracker.after_concat]
              exact Store.get?_erase_self _ _
            rw [gone] at life
            rw [Tracker.report?_deleted, Option.toList_some, List.singleton_append,
              sentOf_cons_turningPoint (.inr rfl)]
            exact .deleted life
        | applied object =>
            cases concerns
            have here : (Tracker.after (before ++ [.applied object])).known? object.key =
                some object := by
              rw [Tracker.after_concat]
              exact Store.get?_insert_self _ _ _
            rw [here] at life
            cases known : (Tracker.after before).known? object.key with
            | none =>
                rw [Tracker.report?_applied_unknown known, Option.toList_some,
                  List.singleton_append, sentOf_cons_turningPoint (.inl rfl)]
                exact .created life
            | some previous =>
                rw [Tracker.report?_applied_known known, Option.toList_some,
                  List.singleton_append, sentOf, List.filter_cons]
                -- The update is sent or dropped; the object is there in either case.
                split
                · exact .updated life
                · exact life
      · rw [if_neg concerns, List.nil_append]
        rwa [known?_concat_of_not_concerns concerns here] at life

/-- The changes of Jobs and Pods that are sent are consistent for every key, in every
stretch of a history in which no listing is completed.  Between two creations there is
a deletion, and between a deletion and an update there is a creation.  Nothing but
updates is missing of what the tracker reports, for the key and altogether; and the
changes for the key tell a life of its object, from whether it is known. -/
theorem sent_changes_tell_a_life (workload : Workload) (key : String)
    (before stretch : List (Notification workload.resource))
    (unlisted : Unlisted before stretch) :
    let reported := (Tracker.after before).reportsOf key stretch
    let altogether := (Tracker.after before).reports stretch
    let reasons := (sentOf reported).map Change.reason
    (∀ front between rest,
      reasons = front ++ .created :: (between ++ .created :: rest) → .deleted ∈ between) ∧
    (∀ front between rest,
      reasons = front ++ .deleted :: (between ++ .updated :: rest) → .created ∈ between) ∧
    turningPoints (sentOf reported) = turningPoints reported ∧
    turningPoints (sentOf altogether) = turningPoints altogether ∧
    Life ((Tracker.after before).known? key).isSome reasons := by
  intro reported altogether reasons
  have life : Life ((Tracker.after before).known? key).isSome reasons := life_sentOf key unlisted
  have among : reported ⊆ altogether :=
    (Tracker.reportsOf_sublist_reports key (Tracker.after before) stretch).subset
  refine ⟨?_, ?_, turningPoints_sentOf among, turningPoints_sentOf (List.Subset.refl _), life⟩
  · intro front between rest split
    rw [split] at life
    exact life.deleted_between
  · intro front between rest split
    rw [split] at life
    exact life.created_between

/-! ## A Pod that comes back -/

/-- A Pod is created, updated, deleted and created again, while a listing begins that
does not end.  The update is a routine one. -/
def returningCourse : List (Notification .pods) :=
  [.applied specifiedPod, .listBegins, .applied runningPod, .listed barePod, .deleted runningPod,
    .applied barePod]

/-- Without the routine update the Pod is still deleted before it is created again. -/
theorem sent_changes_tell_a_life_returningPod :
    let reported := (Tracker.after []).reportsOf barePod.key returningCourse
    Unlisted [] returningCourse ∧
      reported.map Change.reason = [.created, .updated, .deleted, .created] ∧
      (sentOf reported).map Change.reason = [.created, .deleted, .created] ∧
      turningPoints (sentOf reported) = turningPoints reported ∧
      Life false ((sentOf reported).map Change.reason) := by
  intro reported
  have unlisted : Unlisted [] returningCourse := by
    rintro before _ after split ⟨rfl, -⟩
    have member : Notification.listEnds ∈ returningCourse :=
      split ▸ List.mem_append_right before List.mem_cons_self
    simp [returningCourse] at member
  obtain ⟨-, -, complete, -, life⟩ :=
    sent_changes_tell_a_life .pod barePod.key [] returningCourse unlisted
  exact ⟨unlisted, by decide, by decide, complete, life⟩

end ChangeRelay.Admission
