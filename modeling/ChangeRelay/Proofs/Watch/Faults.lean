import ChangeRelay.Proofs.Watch.Reading

/-!
# A watch ignores faults

A fault adds a warning to the log and nothing else.  What a reader can do does not depend
on the log, so in two scenes that agree but for the warnings the same things can happen.
Therefore faults can be taken out of a history, and put into it wherever the reader is
about to take an item, and runs that differ only in faults lead to scenes that agree.
-/

namespace ChangeRelay.Watch

open Relay

variable {resource : Resource} {first scene next : Scene resource} {deed : Deed resource}
  {history : List (Deed resource)}

/-! ## Warnings -/

theorem Step.warnings (step : Step scene deed next) :
    Log.ofLevel .warn next.trace.log =
      Log.ofLevel .warn scene.trace.log ++
        deed.fault?.toList.map (Reader.faultEntry resource) := by
  cases step with
  | told notification reading => simp [Reader.take_notification reading]
  | erred fault reading =>
      rw [Reader.take_fault reading]
      exact Log.ofLevel_append _ _ _
  | accepted about taken => simp [Reader.afterSending_accepted about]
  | refused about failed =>
      rw [Reader.afterSending_failed about]
      simp [Reader.finish, Trace.addLog, Trace.addMeasure, Log.ofLevel, Log.debug, Log.info]
  | exhausted reading =>
      rw [Reader.noMoreItems_of_reading reading]
      simp [Reader.finish, Trace.addLog, Trace.addMeasure, Log.ofLevel, Log.info]
  | moved remains => simp

theorem Run.warnings (run : Run first history scene) :
    Log.ofLevel .warn scene.trace.log =
      Log.ofLevel .warn first.trace.log ++ (faults history).map (Reader.faultEntry resource) := by
  induction run with
  | start => simp [faults]
  | step run step ih =>
      rw [step.warnings, ih, faults_concat, List.map_append, List.append_assoc]

/-! ## Scenes that agree -/

/-- Two scenes agree in everything but the warnings. -/
structure Scene.Agrees (first second : Scene resource) : Prop where
  reader : first.reader = second.reader
  channel : first.channel = second.channel
  trace : first.trace.withoutWarnings = second.trace.withoutWarnings

namespace Scene.Agrees

theorem refl (scene : Scene resource) : scene.Agrees scene :=
  ⟨rfl, rfl, rfl⟩

theorem trans {left middle right : Scene resource} (first : left.Agrees middle)
    (second : middle.Agrees right) : left.Agrees right :=
  ⟨first.reader.trans second.reader, first.channel.trans second.channel,
    first.trace.trans second.trace⟩

theorem symm {left right : Scene resource} (agree : left.Agrees right) : right.Agrees left :=
  ⟨agree.reader.symm, agree.channel.symm, agree.trace.symm⟩

end Scene.Agrees

theorem Reader.withoutWarnings_finish (result : Except PluginError Unit) (reader : Reader resource)
    {first second : Trace} (agree : first.withoutWarnings = second.withoutWarnings) :
    (reader.finish result first).2.withoutWarnings =
      (reader.finish result second).2.withoutWarnings := by
  simp [finish, agree]

/-- What can happen in a scene can happen in a scene that agrees with it. -/
theorem Step.agrees {other : Scene resource} (step : Step scene deed next)
    (agree : scene.Agrees other) : ∃ after, Step other deed after ∧ next.Agrees after := by
  obtain ⟨reader, channel, trace⟩ := scene
  obtain ⟨_, _, otherTrace⟩ := other
  obtain ⟨rfl, rfl, same⟩ := agree
  cases step with
  | told notification reading =>
      refine ⟨_, .told notification reading, ?_⟩
      rw [Reader.take_notification reading, Reader.take_notification reading]
      exact ⟨rfl, rfl, same⟩
  | erred fault reading =>
      refine ⟨_, .erred fault reading, ?_⟩
      rw [Reader.take_fault reading, Reader.take_fault reading]
      exact ⟨rfl, rfl, by simp [same]⟩
  | accepted about taken =>
      refine ⟨_, .accepted about taken, ?_⟩
      rw [Reader.afterSending_accepted about, Reader.afterSending_accepted about]
      exact ⟨rfl, rfl, same⟩
  | refused about failed =>
      refine ⟨_, .refused about failed, ?_⟩
      rw [Reader.afterSending_failed about, Reader.afterSending_failed about]
      exact ⟨rfl, rfl, Reader.withoutWarnings_finish (.ok ()) reader (by simp [same])⟩
  | exhausted reading =>
      refine ⟨_, .exhausted reading, ?_⟩
      rw [Reader.noMoreItems_of_reading reading, Reader.noMoreItems_of_reading reading]
      exact ⟨rfl, rfl,
        Reader.withoutWarnings_finish (.error (Reader.streamEnded resource)) reader same⟩
  | moved remains => exact ⟨_, .moved remains, rfl, rfl, same⟩

theorem Run.agrees {other : Scene resource} (agree : first.Agrees other)
    (run : Run first history scene) : ∃ after, Run other history after ∧ scene.Agrees after := by
  induction run with
  | start => exact ⟨other, .start, agree⟩
  | step run step ih =>
      obtain ⟨middle, before, agreeMiddle⟩ := ih
      obtain ⟨after, same, agreeAfter⟩ := step.agrees agreeMiddle
      exact ⟨after, before.step same, agreeAfter⟩

theorem Step.agrees_of_fault {fault : Fault} (step : Step scene (.erred fault) next) :
    next.Agrees scene := by
  cases step with
  | erred fault reading =>
      rw [Reader.take_fault reading]
      exact ⟨rfl, rfl, by simp [Reader.faultEntry, Log.warn, Trace.addLog_nil]⟩

/-! ## Runs that differ in faults -/

/-- Faults can be taken out of a run. -/
theorem Run.exists_withoutFaults (run : Run first history scene) :
    ∃ calm, Run first (withoutFaults history) calm ∧ scene.Agrees calm := by
  induction run with
  | start => exact ⟨first, .start, .refl first⟩
  | @step history deed scene next run step ih =>
      obtain ⟨calm, calmRun, agree⟩ := ih
      cases deed with
      | erred fault =>
          rw [withoutFaults_concat_of_fault]
          exact ⟨calm, calmRun, step.agrees_of_fault.trans agree⟩
      | told | accepted | refused | exhausted | moved =>
          obtain ⟨after, same, agreeAfter⟩ := step.agrees agree
          rw [withoutFaults_concat history rfl]
          exact ⟨after, calmRun.step same, agreeAfter⟩

/-- A fault can be put into a run wherever the reader is about to take an item. -/
theorem Run.exists_withFault {middle : Scene resource} {before after : List (Deed resource)}
    (run : Run first (before ++ after) scene) (front : Run first before middle)
    (reading : middle.reader.phase = .reading) (fault : Fault) :
    ∃ noisy, Run first (before ++ .erred fault :: after) noisy := by
  obtain ⟨_, same, back⟩ := (Run.append_iff before after).mp run
  obtain rfl := front.deterministic same
  have step : Step middle (.erred fault) _ := .erred fault reading
  obtain ⟨noisy, later, -⟩ := back.agrees step.agrees_of_fault.symm
  rw [List.append_cons]
  exact ⟨noisy, (Run.append_iff _ _).mpr ⟨_, front.step step, later⟩⟩

/-- Runs whose histories differ only in faults lead to scenes that agree. -/
theorem Run.agrees_of_withoutFaults_eq {other : List (Deed resource)} {otherScene : Scene resource}
    (run : Run first history scene) (again : Run first other otherScene)
    (same : withoutFaults other = withoutFaults history) : scene.Agrees otherScene := by
  obtain ⟨calm, calmRun, agree⟩ := run.exists_withoutFaults
  obtain ⟨_, otherCalmRun, otherAgree⟩ := again.exists_withoutFaults
  rw [same] at otherCalmRun
  obtain rfl := calmRun.deterministic otherCalmRun
  exact agree.trans otherAgree.symm

/-- Faults can be taken out of a run, and put into it wherever an item is taken, and only
the warnings change. -/
structure IgnoresFaults (first : Scene resource) (history : List (Deed resource))
    (scene : Scene resource) : Prop where
  without : ∃ calm, Run first (withoutFaults history) calm
  withFault : ∀ before after middle, history = before ++ after → Run first before middle →
    middle.reader.phase = .reading →
      ∀ fault, ∃ noisy, Run first (before ++ .erred fault :: after) noisy
  agrees : ∀ other otherScene, withoutFaults other = withoutFaults history →
    Run first other otherScene →
      acceptedChanges other = acceptedChanges history ∧ scene.Agrees otherScene

theorem Run.ignoresFaults (run : Run first history scene) : IgnoresFaults first history scene := by
  obtain ⟨calm, calmRun, -⟩ := run.exists_withoutFaults
  refine ⟨⟨calm, calmRun⟩, ?_, ?_⟩
  · rintro before after middle rfl front reading fault
    exact run.exists_withFault front reading fault
  · intro other otherScene same again
    refine ⟨?_, run.agrees_of_withoutFaults_eq again same⟩
    rw [← acceptedChanges_withoutFaults other, same, acceptedChanges_withoutFaults]

end ChangeRelay.Watch
