import ChangeRelay.Proofs.Tracker.Isolation
import ChangeRelay.Proofs.Watch.Faults

/-!
# A watch forwards what its tracker reports

What is due to be sent in a run is the change that the reader was about to send at its
beginning, and then what the tracker reports of the notifications.  The changes that the
channel accepted are what was due, in its order, but for at most the last: it still
waits to be sent, or the channel was closed and the watch ended with it.
-/

namespace ChangeRelay.Watch

open Relay

variable {resource : Resource} {first scene next : Scene resource} {deed : Deed resource}
  {history : List (Deed resource)}

/-! ## What is due and what was accepted -/

/-- How far the reader of a watch has come with the changes that are due. -/
inductive Standing (due accepted : List Change) : Phase → Prop where
  | reading (all : accepted = due) : Standing due accepted .reading
  | sending {change : Change} (others : accepted ++ [change] = due) :
      Standing due accepted (.sending change)
  /-- The last change was not accepted. -/
  | refused {change : Change} (others : accepted ++ [change] = due) :
      Standing due accepted (.ended (.ok ()))
  | exhausted {error : PluginError} (all : accepted = due) :
      Standing due accepted (.ended (.error error))

theorem Standing.accepted_prefix {due accepted : List Change} {phase : Phase}
    (standing : Standing due accepted phase) : accepted <+: due := by
  cases standing with
  | reading all | exhausted all => exact all ▸ List.prefix_rfl
  | sending others | refused others => exact others ▸ List.prefix_append accepted _

/-- The change that becomes due by a deed. -/
def Scene.report? (scene : Scene resource) (deed : Deed resource) : Option Change :=
  deed.notification?.bind scene.reader.tracker.report?

theorem Standing.step {due accepted : List Change}
    (standing : Standing due accepted scene.reader.phase) (step : Step scene deed next) :
    Standing (due ++ (scene.report? deed).toList) (accepted ++ deed.accepted?.toList)
      next.reader.phase := by
  cases step with
  | told notification reading =>
      rw [reading] at standing
      cases standing with
      | reading all =>
          rw [Reader.take_notification reading]
          cases reported : scene.reader.tracker.report? notification with
          | none => exact .reading (by simp [Scene.report?, reported, all])
          | some change => exact .sending (by simp [Scene.report?, reported, all])
  | erred fault reading =>
      rw [Reader.take_fault reading]
      simpa [Scene.report?] using standing
  | accepted about taken =>
      rw [about] at standing
      cases standing with
      | sending others =>
          rw [Reader.afterSending_accepted about]
          exact .reading (by simpa [Scene.report?] using others)
  | refused about failed =>
      rw [about] at standing
      cases standing with
      | sending others =>
          rw [Reader.afterSending_failed about]
          exact .refused (by simpa [Scene.report?] using others)
  | exhausted reading =>
      rw [reading] at standing
      cases standing with
      | reading all =>
          rw [Reader.noMoreItems_of_reading reading]
          exact .exhausted (by simpa [Scene.report?] using all)
  | moved remains => simpa [Scene.report?] using standing

theorem Step.tracker_eq (step : Step scene deed next) :
    next.reader.tracker = scene.reader.tracker.advance deed.notification?.toList := by
  cases step with
  | told notification reading =>
      rw [Reader.take_notification reading]
      rfl
  | erred fault reading =>
      rw [Reader.take_fault reading]
      rfl
  | accepted about taken =>
      rw [Reader.afterSending_accepted about]
      rfl
  | refused about failed =>
      rw [Reader.afterSending_failed about]
      rfl
  | exhausted reading =>
      rw [Reader.noMoreItems_of_reading reading]
      rfl
  | moved remains => rfl

theorem Run.tracker_eq (run : Run first history scene) :
    scene.reader.tracker = first.reader.tracker.advance (notifications history) := by
  induction run with
  | start => rfl
  | step run step ih =>
      rw [notifications_concat, Tracker.advance_append, ← ih]
      exact step.tracker_eq

/-- The change that a reader is about to send. -/
def Phase.due : Phase → List Change
  | .sending change => [change]
  | .reading | .ended _ => []

theorem Run.standing (running : ∀ result, first.reader.phase ≠ .ended result)
    (run : Run first history scene) :
    Standing (first.reader.phase.due ++ first.reader.tracker.reports (notifications history))
      (acceptedChanges history) scene.reader.phase := by
  induction run with
  | start =>
      cases phase : first.reader.phase with
      | reading => exact .reading rfl
      | sending change => exact .sending rfl
      | ended result => exact absurd phase (running result)
  | step run step ih =>
      rw [acceptedChanges_concat, notifications_concat, Tracker.reports_append_toList,
        ← run.tracker_eq, ← List.append_assoc]
      exact ih.step step

/-! ## How a watch ends -/

/-- A closed channel stays closed and accepts nothing. -/
theorem Step.closed (step : Step scene deed next) (closed : scene.channel.isOpen = false) :
    next.channel.isOpen = false ∧ deed.accepted? = none := by
  cases step with
  | accepted about taken =>
      obtain ⟨isOpen, -⟩ := (Channel.offer_eq_ok_iff _ _ _).mp
        ((Channel.send_eq_accepted_iff _ _ _).mp taken)
      rw [closed] at isOpen
      cases isOpen
  | moved remains => exact ⟨remains closed, rfl⟩
  | told | erred | refused | exhausted => exact ⟨closed, rfl⟩

theorem Run.closed (run : Run first history scene) (closed : first.channel.isOpen = false) :
    scene.channel.isOpen = false ∧ acceptedChanges history = [] := by
  induction run with
  | start => exact ⟨closed, rfl⟩
  | step run step ih =>
      obtain ⟨still, none⟩ := step.closed ih.1
      rw [acceptedChanges_concat, ih.2, none]
      exact ⟨still, rfl⟩

/-- A watch that ended well found the channel closed, and one that ended badly had no more
items. -/
structure EndsForCause (history : List (Deed resource)) (scene : Scene resource) : Prop where
  well : scene.reader.phase = .ended (.ok ()) → scene.channel.isOpen = false
  badly : ∀ error, scene.reader.phase = .ended (.error error) →
    error = Reader.streamEnded resource ∧ .exhausted ∈ history

theorem EndsForCause.step (cause : EndsForCause history scene) (step : Step scene deed next) :
    EndsForCause (history ++ [deed]) next := by
  cases step with
  | told notification reading =>
      rw [Reader.take_notification reading]
      cases reported : scene.reader.tracker.report? notification <;>
        exact ⟨by simp [Reader.phaseAfter], by simp [Reader.phaseAfter]⟩
  | erred fault reading =>
      rw [Reader.take_fault reading]
      exact ⟨by simp [reading], by simp [reading]⟩
  | accepted about taken =>
      rw [Reader.afterSending_accepted about]
      exact ⟨by simp, by simp⟩
  | refused about failed =>
      rw [Reader.afterSending_failed about]
      obtain ⟨closed, -⟩ := (Channel.send_eq_failed_iff _ _ _ _).mp failed
      exact ⟨fun _ => closed, by simp [Reader.finish]⟩
  | exhausted reading =>
      rw [Reader.noMoreItems_of_reading reading]
      exact ⟨by simp [Reader.finish], by simp [Reader.finish, eq_comm]⟩
  | moved remains =>
      refine ⟨fun ended => remains (cause.well ended), fun error ended => ?_⟩
      obtain ⟨same, member⟩ := cause.badly error ended
      exact ⟨same, List.mem_append_left _ member⟩

theorem Run.cause (running : ∀ result, first.reader.phase ≠ .ended result)
    (run : Run first history scene) : EndsForCause history scene := by
  induction run with
  | start => exact ⟨fun ended => absurd ended (running _), fun _ ended => absurd ended (running _)⟩
  | step run step ih => exact ih.step step

/-- A send that is pending when the channel is closed ends the watch well. -/
theorem exists_refused {change : Change} (about : scene.reader.phase = .sending change)
    (closed : scene.channel.isOpen = false) :
    ∃ next, Step scene (.refused change) next ∧ next.reader.phase = .ended (.ok ()) := by
  have failed := (Channel.send_eq_failed_iff change _ _ _).mpr ⟨closed, rfl, rfl⟩
  refine ⟨_, .refused about failed, ?_⟩
  rw [Reader.afterSending_failed about]
  rfl

/-- A send goes through when the channel is open and has room. -/
theorem exists_accepted {change : Change} (about : scene.reader.phase = .sending change)
    (isOpen : scene.channel.isOpen = true)
    (room : scene.channel.queue.length < scene.channel.capacity) :
    ∃ next, Step scene (.accepted change) next ∧ next.reader.phase = .reading := by
  have taken := (Channel.send_eq_accepted_iff change _ _).mpr
    ((Channel.offer_eq_ok_iff change _ _).mpr ⟨isOpen, room, rfl⟩)
  refine ⟨_, .accepted about taken, ?_⟩
  rw [Reader.afterSending_accepted about]
  rfl

/-! ## Whole runs -/

/-- What a watch has done, and what of it can be seen. -/
structure Forwards (history : List (Deed resource)) (scene : Scene resource) : Prop where
  tracker : scene.reader.tracker = Tracker.after (notifications history)
  /-- Whatever notifications are still to come. -/
  accepted_prefix : ∀ later,
    acceptedChanges history <+: Tracker.empty.reports (notifications history ++ later)
  standing : Standing (Tracker.empty.reports (notifications history)) (acceptedChanges history)
    scene.reader.phase
  cause : EndsForCause history scene
  warnings : Log.ofLevel .warn scene.trace.log =
    (faults history).map (Reader.faultEntry resource)

/-- What follows when the channel is closed.  Nothing is accepted any more, and the watch
goes on for as long as nothing is due; the first change that is due ends it. -/
structure EndsOnDueChange (scene : Scene resource) (more : List (Deed resource))
    (final : Scene resource) : Prop where
  accepted : acceptedChanges more = []
  cause : EndsForCause more final
  standing : Standing
    (scene.reader.phase.due ++ scene.reader.tracker.reports (notifications more)) []
    final.reader.phase
  refusal : ∀ change, final.reader.phase = .sending change →
    ∃ next, Step final (.refused change) next ∧ next.reader.phase = .ended (.ok ())

/-- A watch forwards what its tracker reports, whatever others do with the channel.
Faults leave no trace but a warning each, and when the channel is closed, the watch ends
well by the send that is pending, or else by the next one. -/
theorem watch_forwards_what_its_tracker_reports {namespaceName : Option String}
    {channel : Channel}
    (run : Run (.beginning resource namespaceName channel) history scene) :
    Forwards history scene ∧
    IgnoresFaults (.beginning resource namespaceName channel) history scene ∧
    (∀ change, scene.reader.phase = .sending change → scene.channel.isOpen = true →
      scene.channel.queue.length < scene.channel.capacity →
        ∃ next, Step scene (.accepted change) next ∧ next.reader.phase = .reading) ∧
    (scene.channel.isOpen = false → (∀ result, scene.reader.phase ≠ .ended result) →
      ∀ more final, Run scene more final → EndsOnDueChange scene more final) := by
  have running : ∀ result, (Scene.beginning resource namespaceName channel).reader.phase ≠
      .ended result := by
    intro result ended
    cases ended
  have standing : Standing (Tracker.empty.reports (notifications history))
      (acceptedChanges history) scene.reader.phase := run.standing running
  refine ⟨?_, run.ignoresFaults, fun change => exists_accepted, ?_⟩
  · refine ⟨run.tracker_eq, fun later => ?_, standing, run.cause running, run.warnings⟩
    rw [Tracker.reports_append]
    exact standing.accepted_prefix.trans (List.prefix_append _ _)
  · intro closed running more final later
    obtain ⟨stillClosed, nothing⟩ := later.closed closed
    refine ⟨nothing, later.cause running, ?_, fun change about => exists_refused about stillClosed⟩
    have balance := later.standing running
    rwa [nothing] at balance

/-! ## A hub that goes away -/

/-- A Job that waits for the night. -/
def waitingJob : Object .jobs :=
  (Object.read? .jobs (.obj [("metadata", .obj [("name", .str "nightly")])])).get rfl

/-- The same Job at night. -/
def activeJob : Object .jobs :=
  (Object.read? .jobs (.obj [("metadata", .obj [("name", .str "nightly")]),
    ("status", .obj [("active", .num (.int 1))])])).get rfl

/-- A history in which the Job begins to run, and in which the hub goes away before the
Job does.  Faults come in between. -/
def hubGoesAway : List (Deed .jobs) :=
  [.told .listBegins, .told (.listed waitingJob), .told .listEnds, .told (.applied activeJob),
    .accepted (Tracker.changeOf .updated activeJob (some waitingJob)), .erred .lineUnreadable,
    .moved ⟨1, [], 0, false⟩, .told .listBegins, .erred .listFailed, .told (.deleted activeJob),
    .refused (Tracker.changeOf .deleted activeJob none)]

/-- The watch has sent the one change and ended well by the other. -/
theorem watch_forwards_what_its_tracker_reports_hubGoesAway :
    ∃ scene, Run (.beginning .jobs none ⟨1, [], 1, true⟩) hubGoesAway scene ∧
      Forwards hubGoesAway scene ∧
      acceptedChanges hubGoesAway = [Tracker.changeOf .updated activeJob (some waitingJob)] ∧
      scene.reader.phase = .ended (.ok ()) ∧
      (Log.ofLevel .warn scene.trace.log).length = 2 := by
  have begun : Run (.beginning .jobs none ⟨1, [], 1, true⟩) [] _ := .start
  have listed := ((begun.step (.told .listBegins rfl)).step
    (.told (.listed waitingJob) rfl)).step (.told .listEnds rfl)
  have updated := (listed.step (.told (.applied activeJob) rfl)).step (.accepted rfl rfl)
  have closed := (updated.step (.erred .lineUnreadable rfl)).step
    (Step.moved fun _ => rfl : Step _ (.moved ⟨1, [], 0, false⟩) _)
  have deleted := ((closed.step (.told .listBegins rfl)).step (.erred .listFailed rfl)).step
    (.told (.deleted activeJob) rfl)
  have run : Run (.beginning .jobs none ⟨1, [], 1, true⟩) hubGoesAway _ :=
    deleted.step (.refused rfl rfl)
  obtain ⟨forwards, -, -, -⟩ := watch_forwards_what_its_tracker_reports run
  exact ⟨_, run, forwards, rfl, rfl, by rw [forwards.warnings]; rfl⟩

end ChangeRelay.Watch
