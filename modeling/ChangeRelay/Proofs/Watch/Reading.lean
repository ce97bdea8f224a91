import ChangeRelay.Watch.Reader
import Mathlib.Data.List.Induction
import Mathlib.Tactic.Simps.Basic

/-!
# Watches at work

The reader of a watch takes items and sends changes, while others use the channel too.
What happens is a sequence of steps, in any order that the reader allows.  A history
together with the scenes between which it leads is a run.

Of the others only this is assumed: they do not open a channel again that is closed.
That a send waits is no step, since nothing changes while it does.
-/

namespace ChangeRelay.Relay

namespace Channel

theorem send_eq_accepted_iff (change : Change) (channel after : Channel) :
    channel.send change = (.accepted, after) ↔ channel.offer change = .ok after := by
  unfold send
  rcases channel.offer change with (_ | _) | _ <;> simp

theorem offer_eq_closed_iff (change : Change) (channel : Channel) :
    channel.offer change = .error .closed ↔ channel.isOpen = false := by
  cases isOpen : channel.isOpen with
  | false => simp [offer, isOpen]
  | true => by_cases room : channel.queue.length < channel.capacity <;> simp [offer, isOpen, room]

/-- Sending fails exactly if the channel is closed. -/
theorem send_eq_failed_iff (change : Change) (channel after : Channel) (error : PluginError) :
    channel.send change = (.failed error, after) ↔
      channel.isOpen = false ∧ Refusal.closed.toPluginError = error ∧ channel = after := by
  rw [← offer_eq_closed_iff change, send]
  rcases channel.offer change with (_ | _) | _ <;> simp

end Channel

namespace Trace

/-- A trace without the warnings in its log. -/
def withoutWarnings (trace : Trace) : Trace :=
  { trace with log := trace.log.filter fun entry => entry.level ≠ .warn }

@[simp]
theorem withoutWarnings_addMeasure (measure : Metrics.Measure) (trace : Trace) :
    (trace.addMeasure measure).withoutWarnings = trace.withoutWarnings.addMeasure measure :=
  rfl

@[simp]
theorem withoutWarnings_addLog (entries : List Log.Entry) (trace : Trace) :
    (trace.addLog entries).withoutWarnings =
      trace.withoutWarnings.addLog (entries.filter fun entry => entry.level ≠ .warn) := by
  simp [withoutWarnings, addLog]

theorem addLog_nil (trace : Trace) : trace.addLog [] = trace := by
  simp [addLog]

end Trace

end ChangeRelay.Relay

namespace ChangeRelay.Watch

open Relay

variable {resource : Resource}

/-! ## What a reader does -/

namespace Reader

/-- The warning about a fault. -/
def faultEntry (resource : Resource) (fault : Fault) : Log.Entry :=
  Log.warn "K8s watcher error" [("kind", resource.kind), ("error", fault.message)]

/-- The error of a reader whose watch has no more items. -/
def streamEnded (resource : Resource) : PluginError :=
  .watch (resource.kind ++ " watch stream ended")

variable {reader : Reader resource}

theorem take_notification (reading : reader.phase = .reading)
    (notification : Notification resource) (trace : Trace) :
    reader.take (.notification notification) trace =
      (⟨reader.tracker.next notification, phaseAfter (reader.tracker.report? notification)⟩,
        trace) := by
  simp only [take, reading]

theorem take_fault (reading : reader.phase = .reading) (fault : Fault) (trace : Trace) :
    reader.take (.fault fault) trace = (reader, trace.addLog [faultEntry resource fault]) := by
  simp only [take, reading, faultEntry]

theorem afterSending_accepted {change : Change} (about : reader.phase = .sending change)
    (trace : Trace) :
    reader.afterSending .accepted trace = ({ reader with phase := .reading }, trace) := by
  simp only [afterSending, about]

theorem afterSending_failed {change : Change} (about : reader.phase = .sending change)
    (error : PluginError) (trace : Trace) :
    reader.afterSending (.failed error) trace = reader.finish (.ok ())
      (trace.addLog [Log.debug "K8s ingestor channel closed" [("kind", resource.kind)]]) := by
  simp only [afterSending, about]

theorem noMoreItems_of_reading (reading : reader.phase = .reading) (trace : Trace) :
    reader.noMoreItems trace = reader.finish (.error (streamEnded resource)) trace := by
  simp only [noMoreItems, reading, streamEnded]

end Reader

/-! ## Histories -/

/-- What can happen while a watch is read. -/
inductive Deed (resource : Resource) where
  /-- The reader took a notification. -/
  | told (notification : Notification resource)
  /-- The reader took a fault. -/
  | erred (fault : Fault)
  /-- The channel took the change that was to be sent. -/
  | accepted (change : Change)
  /-- The channel did not take the change that was to be sent, and never will. -/
  | refused (change : Change)
  /-- The watch had no more items. -/
  | exhausted
  /-- Others left the channel like this. -/
  | moved (channel : Channel)

namespace Deed

/-- The notification that was taken. -/
@[simp]
def notification? : Deed resource → Option (Notification resource)
  | told notification => some notification
  | _ => none

/-- The fault that was taken. -/
@[simp]
def fault? : Deed resource → Option Fault
  | erred fault => some fault
  | _ => none

/-- The change that was accepted. -/
@[simp]
def accepted? : Deed resource → Option Change
  | accepted change => some change
  | _ => none

end Deed

/-- The notifications that a reader took. -/
def notifications (history : List (Deed resource)) : List (Notification resource) :=
  history.filterMap (·.notification?)

/-- The faults that a reader took. -/
def faults (history : List (Deed resource)) : List Fault :=
  history.filterMap (·.fault?)

/-- The changes that were accepted from a reader. -/
def acceptedChanges (history : List (Deed resource)) : List Change :=
  history.filterMap (·.accepted?)

/-- A history as it is when the watch has no faults. -/
def withoutFaults (history : List (Deed resource)) : List (Deed resource) :=
  history.filter fun deed => deed.fault?.isNone

section Growth

variable (history : List (Deed resource)) (deed : Deed resource)

@[simp]
theorem notifications_concat :
    notifications (history ++ [deed]) = notifications history ++ deed.notification?.toList := by
  cases deed <;> simp [notifications]

@[simp]
theorem faults_concat : faults (history ++ [deed]) = faults history ++ deed.fault?.toList := by
  cases deed <;> simp [faults]

@[simp]
theorem acceptedChanges_concat :
    acceptedChanges (history ++ [deed]) = acceptedChanges history ++ deed.accepted?.toList := by
  cases deed <;> simp [acceptedChanges]

end Growth

theorem withoutFaults_concat_of_fault (history : List (Deed resource)) (fault : Fault) :
    withoutFaults (history ++ [.erred fault]) = withoutFaults history := by
  simp [withoutFaults]

theorem withoutFaults_concat (history : List (Deed resource)) {deed : Deed resource}
    (calm : deed.fault? = none) :
    withoutFaults (history ++ [deed]) = withoutFaults history ++ [deed] := by
  rw [withoutFaults, List.filter_append, List.filter_cons_of_pos (by rw [calm]; rfl)]
  rfl

theorem acceptedChanges_withoutFaults (history : List (Deed resource)) :
    acceptedChanges (withoutFaults history) = acceptedChanges history := by
  simp only [acceptedChanges, withoutFaults, List.filterMap_filter]
  congr 1
  funext deed
  cases deed <;> rfl

/-! ## Steps and runs -/

/-- A watch that is read, the channel that it shares with others, and the trace. -/
structure Scene (resource : Resource) where
  reader : Reader resource
  channel : Channel
  trace : Trace

namespace Scene

/-- The scene after the reader did something. -/
@[simps]
def following (scene : Scene resource) (outcome : Reader resource × Trace) : Scene resource :=
  { scene with reader := outcome.1, trace := outcome.2 }

/-- A watch begins. -/
def beginning (resource : Resource) (namespaceName : Option String) (channel : Channel) :
    Scene resource :=
  let (reader, trace) := (Reader.start namespaceName .empty : Reader resource × Trace)
  ⟨reader, channel, trace⟩

end Scene

/-- One thing happens. -/
inductive Step : Scene resource → Deed resource → Scene resource → Prop where
  | told {scene : Scene resource} (notification : Notification resource)
      (reading : scene.reader.phase = .reading) :
      Step scene (.told notification)
        (scene.following (scene.reader.take (.notification notification) scene.trace))
  | erred {scene : Scene resource} (fault : Fault) (reading : scene.reader.phase = .reading) :
      Step scene (.erred fault)
        (scene.following (scene.reader.take (.fault fault) scene.trace))
  | accepted {scene : Scene resource} {change : Change} {channel : Channel}
      (about : scene.reader.phase = .sending change)
      (taken : scene.channel.send change = (.accepted, channel)) :
      Step scene (.accepted change)
        ({ scene with channel }.following (scene.reader.afterSending .accepted scene.trace))
  | refused {scene : Scene resource} {change : Change} {error : PluginError}
      (about : scene.reader.phase = .sending change)
      (failed : scene.channel.send change = (.failed error, scene.channel)) :
      Step scene (.refused change)
        (scene.following (scene.reader.afterSending (.failed error) scene.trace))
  | exhausted {scene : Scene resource} (reading : scene.reader.phase = .reading) :
      Step scene .exhausted (scene.following (scene.reader.noMoreItems scene.trace))
  | moved {scene : Scene resource} {channel : Channel}
      (remains : scene.channel.isOpen = false → channel.isOpen = false) :
      Step scene (.moved channel) { scene with channel }

/-- The scenes that a history leads to from a scene. -/
inductive Run (first : Scene resource) : List (Deed resource) → Scene resource → Prop where
  | start : Run first [] first
  | step {history : List (Deed resource)} {deed : Deed resource} {scene next : Scene resource}
      (run : Run first history scene) (step : Step scene deed next) :
      Run first (history ++ [deed]) next

variable {first scene next : Scene resource} {deed : Deed resource}
  {history : List (Deed resource)}

/-- A scene and what happens in it determine the next scene. -/
theorem Step.deterministic {other : Scene resource} (step : Step scene deed next)
    (again : Step scene deed other) : next = other := by
  cases step with
  | told | erred | exhausted | moved =>
      cases again
      rfl
  | accepted about taken =>
      cases again with
      | accepted _ takenAgain =>
          obtain ⟨-, rfl⟩ := Prod.mk.inj (taken.symm.trans takenAgain)
          rfl
  | refused about failed =>
      cases again with
      | refused _ failedAgain =>
          obtain ⟨⟨⟩, -⟩ := Prod.mk.inj (failed.symm.trans failedAgain)
          rfl

namespace Run

@[simp]
theorem nil_iff : Run first [] scene ↔ scene = first := by
  constructor
  · intro run
    generalize whole : ([] : List (Deed resource)) = history at run
    cases run with
    | start => rfl
    | step => simp at whole
  · rintro rfl
    exact .start

@[simp]
theorem concat_iff (history : List (Deed resource)) (deed : Deed resource) :
    Run first (history ++ [deed]) next ↔
      ∃ scene, Run first history scene ∧ Step scene deed next := by
  constructor
  · intro run
    generalize whole : history ++ [deed] = longer at run
    cases run with
    | start => simp at whole
    | step run step =>
        obtain ⟨rfl, ⟨⟩⟩ := List.append_inj' whole rfl
        exact ⟨_, run, step⟩
  · rintro ⟨scene, run, step⟩
    exact run.step step

theorem append_iff (before after : List (Deed resource)) :
    Run first (before ++ after) scene ↔
      ∃ middle, Run first before middle ∧ Run middle after scene := by
  induction after using List.reverseRecOn generalizing scene with
  | nil => simp
  | append_singleton after deed ih =>
      rw [← List.append_assoc, concat_iff]
      constructor
      · rintro ⟨last, run, step⟩
        obtain ⟨middle, front, back⟩ := ih.mp run
        exact ⟨middle, front, back.step step⟩
      · rintro ⟨middle, front, back⟩
        obtain ⟨last, run, step⟩ := (concat_iff _ _).mp back
        exact ⟨last, ih.mpr ⟨middle, front, run⟩, step⟩

/-- A history determines where it leads. -/
theorem deterministic {other : Scene resource} (run : Run first history scene)
    (again : Run first history other) : scene = other := by
  induction run generalizing other with
  | start => exact (nil_iff.mp again).symm
  | step run step ih =>
      obtain ⟨middle, before, last⟩ := (concat_iff _ _).mp again
      obtain rfl := ih before
      exact step.deterministic last

end Run

end ChangeRelay.Watch
