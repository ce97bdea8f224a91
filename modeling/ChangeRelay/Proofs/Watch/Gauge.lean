import ChangeRelay.Proofs.Watch.Reading
import ChangeRelay.Watch.Group

/-!
# The gauge of watches

The watches of a group share a channel and a trace, and their steps happen in any order.
A watch counts itself in the gauge when it begins, and out when it ends by itself.  When
it is broken off, by its group or because it dies, nobody counts it out.

So the gauge shows the watches that run, together with those that were broken off while
they ran.
-/

namespace ChangeRelay

namespace Metrics

/-- By how much a measure moves the gauge. -/
def Measure.delta : Measure → Int
  | .watchStarted => 1
  | .watchStopped => -1
  | .observed _ _ | .forwarded _ | .dropped _ | .emitFailed _ => 0

theorem Registry.activeWatches_record (registry : Registry) (measure : Measure) :
    (registry.record measure).activeWatches = registry.activeWatches + measure.delta := by
  cases measure <;> simp [record, Measure.delta, Int.sub_eq_add_neg]

end Metrics

namespace Relay.Trace

/-- The gauge after what a trace measures. -/
def gauge (trace : Trace) : Int :=
  (trace.updateMetrics .zero).activeWatches

@[simp]
theorem gauge_addMeasure (measure : Metrics.Measure) (trace : Trace) :
    (trace.addMeasure measure).gauge = trace.gauge + measure.delta := by
  simp only [gauge, updateMetrics, addMeasure, Metrics.Registry.recordAll_append]
  exact Metrics.Registry.activeWatches_record _ measure

@[simp]
theorem gauge_addLog (entries : List Log.Entry) (trace : Trace) :
    (trace.addLog entries).gauge = trace.gauge :=
  rfl

end Relay.Trace

namespace Watch

open Relay Metrics

/-! ## One watch -/

/-- The reader of a watch has not come to its end. -/
def Phase.isRunning : Phase → Bool
  | .reading | .sending _ => true
  | .ended _ => false

section OneWatch

variable {resource : Resource}

theorem Reader.gauge_start (namespaceName : Option String) (trace : Trace) :
    (start namespaceName trace : Reader resource × Trace).2.gauge = trace.gauge + 1 := by
  simp [start, Measure.delta]

theorem Reader.gauge_finish (result : Except PluginError Unit) (reader : Reader resource)
    (trace : Trace) : (reader.finish result trace).2.gauge = trace.gauge - 1 := by
  simp [finish, Measure.delta, Int.sub_eq_add_neg]

/-- A watch moves the gauge exactly when it comes to its end. -/
theorem Step.gauge {scene next : Scene resource} {deed : Deed resource}
    (step : Step scene deed next) :
    next.trace.gauge + scene.reader.phase.isRunning.toNat =
      scene.trace.gauge + next.reader.phase.isRunning.toNat := by
  cases step with
  | told notification reading =>
      rw [Reader.take_notification reading, reading]
      cases reported : scene.reader.tracker.report? notification <;>
        simp [Reader.phaseAfter, Phase.isRunning]
  | erred fault reading => simp [Reader.take_fault reading]
  | accepted about taken =>
      rw [Reader.afterSending_accepted about, about]
      rfl
  | refused about failed =>
      rw [Reader.afterSending_failed about, about, Scene.following_trace, Reader.gauge_finish]
      simp [Reader.finish, Phase.isRunning]
  | exhausted reading =>
      rw [Reader.noMoreItems_of_reading reading, reading, Scene.following_trace,
        Reader.gauge_finish]
      simp [Reader.finish, Phase.isRunning]
  | moved remains => rfl

end OneWatch

/-! ## Many watches -/

/-- A task that a group runs. -/
inductive Task where
  /-- Its watch has not begun. -/
  | waiting (resource : Resource)
  /-- Its watch has begun. -/
  | watching {resource : Resource} (reader : Reader resource)

namespace Task

/-- The resource of the watch. -/
def resource : Task → Resource
  | waiting resource => resource
  | @watching resource _ => resource

/-- The watch has begun and has not come to its end. -/
def isRunning : Task → Bool
  | waiting _ => false
  | watching reader => reader.phase.isRunning

end Task

/-- The number of watches that run. -/
def running (tasks : List Task) : Nat :=
  tasks.countP (·.isRunning)

@[simp]
theorem running_nil : running [] = 0 :=
  rfl

@[simp]
theorem running_cons (task : Task) (tasks : List Task) :
    running (task :: tasks) = task.isRunning.toNat + running tasks := by
  cases runs : task.isRunning <;> simp [running, runs, Nat.add_comm]

@[simp]
theorem running_append (first second : List Task) :
    running (first ++ second) = running first + running second :=
  List.countP_append

/-- A group at work: its tasks, and what they share. -/
structure Crew where
  group : Group
  tasks : List Task
  channel : Channel
  trace : Trace

/-- A group before its work. -/
def Crew.idle (channel : Channel) : Crew :=
  ⟨.empty, [], channel, .empty⟩

/-- What can happen to a group. -/
inductive Turn where
  | spawned (resource : Resource)
  | begun (resource : Resource)
  /-- A watch that has begun does something. -/
  | acted {resource : Resource} (deed : Deed resource)
  /-- A watch that came to its end is over. -/
  | returned (resource : Resource)
  /-- A task dies, wherever it is. -/
  | died (task : Task)
  /-- The owner asks for the next failure. -/
  | asked
  /-- The owner breaks off every task. -/
  | shutDown (tasks : List Task)
  /-- Others left the channel like this. -/
  | moved (channel : Channel)

/-- The tasks that are broken off. -/
def Turn.brokenOff : Turn → List Task
  | died task => [task]
  | shutDown tasks => tasks
  | spawned _ | begun _ | acted _ | returned _ | asked | moved _ => []

/-- The tasks that were broken off. -/
def brokenOff (history : List Turn) : List Task :=
  history.flatMap (·.brokenOff)

namespace Crew

/-- One thing happens to a group. -/
inductive Step : Crew → Turn → Crew → Prop where
  | spawned {crew : Crew} (resource : Resource) :
      Step crew (.spawned resource)
        { crew with
          group := crew.group.spawn resource
          tasks := crew.tasks ++ [.waiting resource] }
  | begun {crew : Crew} {before after : List Task} {resource : Resource}
      (namespaceName : Option String) (place : crew.tasks = before ++ .waiting resource :: after) :
      Step crew (.begun resource)
        { crew with
          tasks := before ++
            .watching (Reader.start namespaceName crew.trace : Reader resource × Trace).1 :: after
          trace := (Reader.start namespaceName crew.trace : Reader resource × Trace).2 }
  | acted {crew : Crew} {before after : List Task} {resource : Resource}
      {reader : Reader resource} {deed : Deed resource} {next : Scene resource}
      (place : crew.tasks = before ++ .watching reader :: after)
      (step : Watch.Step ⟨reader, crew.channel, crew.trace⟩ deed next) :
      Step crew (.acted deed)
        { crew with
          tasks := before ++ .watching next.reader :: after
          channel := next.channel
          trace := next.trace }
  | returned {crew : Crew} {before after : List Task} {resource : Resource}
      {reader : Reader resource} {result : Except PluginError Unit}
      (place : crew.tasks = before ++ .watching reader :: after)
      (ended : reader.phase = .ended result) :
      Step crew (.returned resource)
        { crew with
          group := crew.group.finish ⟨resource, .returned result⟩
          tasks := before ++ after }
  | died {crew : Crew} {before after : List Task} {task : Task} (description : String)
      (place : crew.tasks = before ++ task :: after) :
      Step crew (.died task)
        { crew with
          group := crew.group.finish ⟨task.resource, .died description⟩
          tasks := before ++ after }
  | asked {crew : Crew} :
      Step crew .asked
        { crew with
          group := crew.group.nextFailure.2.1
          trace := crew.trace.addLog crew.group.nextFailure.2.2 }
  | shutDown {crew : Crew} :
      Step crew (.shutDown crew.tasks) { crew with group := crew.group.shutdown, tasks := [] }
  | moved {crew : Crew} {channel : Channel} :
      Step crew (.moved channel) { crew with channel }

/-- The group that a history leads to. -/
inductive Run (channel : Channel) : List Turn → Crew → Prop where
  | start : Run channel [] (.idle channel)
  | step {history : List Turn} {turn : Turn} {crew next : Crew} (run : Run channel history crew)
      (step : Step crew turn next) : Run channel (history ++ [turn]) next

end Crew

/-! ## What the gauge shows -/

variable {channel : Channel} {history : List Turn} {crew next : Crew} {turn : Turn}

/-- The tasks are those that the group knows as running. -/
theorem Crew.Step.roster (step : Crew.Step crew turn next)
    (roster : crew.group.running.Perm (crew.tasks.map (·.resource))) :
    next.group.running.Perm (next.tasks.map (·.resource)) := by
  have left {before after : List Task} {task : Task}
      (place : crew.tasks = before ++ task :: after) :
      (crew.group.running.erase task.resource).Perm ((before ++ after).map (·.resource)) := by
    rw [place, List.map_append, List.map_cons] at roster
    simpa using (roster.trans List.perm_middle).erase task.resource
  cases step with
  | spawned resource => simpa [Group.spawn, Task.resource] using roster.append_right [resource]
  | begun namespaceName place | acted place step => simpa [place, Task.resource] using roster
  | returned place ended => exact left place
  | died description place => exact left place
  | asked | moved => exact roster
  | shutDown => exact .nil

theorem Crew.Run.roster (run : Crew.Run channel history crew) :
    crew.group.running.Perm (crew.tasks.map (·.resource)) := by
  induction run with
  | start => exact .nil
  | step run step ih => exact step.roster ih

/-- A turn moves the gauge by the watches that begin or end, and leaves it where it is for
those that are broken off. -/
theorem Crew.Step.gauge (step : Crew.Step crew turn next) :
    next.trace.gauge + running crew.tasks =
      crew.trace.gauge + running next.tasks + running turn.brokenOff := by
  cases step with
  | spawned resource => simp [Task.isRunning, Turn.brokenOff]
  | begun namespaceName place =>
      rw [Reader.gauge_start, place]
      simp only [running_append, running_cons, Task.isRunning, Turn.brokenOff, running_nil,
        Reader.start, Phase.isRunning, Bool.toNat_true, Bool.toNat_false]
      omega
  | acted place step =>
      have balance := step.gauge
      dsimp only at balance
      simp only [place, running_append, running_cons, Task.isRunning, Turn.brokenOff, running_nil]
      omega
  | returned place ended =>
      simp [place, Task.isRunning, ended, Phase.isRunning, Turn.brokenOff]
  | died description place =>
      simp only [place, running_append, running_cons, Turn.brokenOff, running_nil]
      omega
  | asked => simp [Turn.brokenOff]
  | shutDown => simp [Turn.brokenOff]
  | moved => simp [Turn.brokenOff]

theorem Crew.Run.gauge (run : Crew.Run channel history crew) :
    crew.trace.gauge = running crew.tasks + running (brokenOff history) := by
  induction run with
  | start => rfl
  | step run step ih =>
      have balance := step.gauge
      simp only [brokenOff, List.flatMap_append, List.flatMap_singleton, running_append] at ih ⊢
      omega

/-- The gauge shows the watches that run, and those that were broken off while they ran.
So it is right exactly as long as every watch that was broken off did not run, and what
breaks off all watches leaves it where it is. -/
theorem gauge_shows_running_and_broken_off_watches (run : Crew.Run channel history crew) :
    crew.trace.gauge = running crew.tasks + running (brokenOff history) ∧
    (crew.trace.gauge = running crew.tasks ↔
      ∀ task ∈ brokenOff history, task.isRunning = false) ∧
    crew.group.running.Perm (crew.tasks.map (·.resource)) ∧
    ∀ next, Crew.Step crew (.shutDown crew.tasks) next →
      next.group = .empty ∧ next.tasks = [] ∧ next.trace.gauge = crew.trace.gauge := by
  have balance := run.gauge
  refine ⟨balance, ?_, run.roster, ?_⟩
  · rw [balance]
    have none : running (brokenOff history) = 0 ↔
        ∀ task ∈ brokenOff history, task.isRunning = false := by
      simp [running, List.countP_eq_zero]
    rw [← none]
    omega
  · intro next step
    cases step
    exact ⟨rfl, rfl, rfl⟩

/-! ## A watch of Pods that is shut down -/

/-- The watch begins, and then its group is shut down. -/
def shutDownPods : List Turn :=
  [.spawned .pods, .begun .pods,
    .shutDown [.watching (Reader.start none .empty : Reader .pods × Trace).1]]

theorem exists_run_shutDownPods : ∃ crew, Crew.Run ⟨1, [], 1, true⟩ shutDownPods crew ∧
    crew.group = .empty ∧ crew.tasks = [] := by
  have idle : Crew.Run ⟨1, [], 1, true⟩ [] _ := .start
  have spawned := idle.step (.spawned .pods)
  have place : (Crew.idle ⟨1, [], 1, true⟩).tasks ++ [.waiting .pods] =
    [] ++ .waiting .pods :: [] := rfl
  exact ⟨_, (spawned.step (.begun none place)).step .shutDown, rfl, rfl⟩

/-- The gauge still shows the watch that was broken off. -/
theorem gauge_shows_running_and_broken_off_watches_shutDownPods :
    ∃ crew, Crew.Run ⟨1, [], 1, true⟩ shutDownPods crew ∧ crew.tasks = [] ∧
      running (brokenOff shutDownPods) = 1 ∧ crew.trace.gauge = 1 := by
  obtain ⟨crew, run, -, noTasks⟩ := exists_run_shutDownPods
  obtain ⟨balance, -, -, -⟩ := gauge_shows_running_and_broken_off_watches run
  rw [noTasks] at balance
  exact ⟨crew, run, noTasks, rfl, balance⟩

/-- No watch runs after the group was shut down, but the gauge is not zero. -/
theorem gauge_left_up_by_shutdown :
    ∃ crew, Crew.Run ⟨1, [], 1, true⟩ shutDownPods crew ∧ crew.group = .empty ∧
      crew.trace.gauge ≠ running crew.tasks := by
  obtain ⟨crew, run, emptied, noTasks⟩ := exists_run_shutDownPods
  refine ⟨crew, run, emptied, ?_⟩
  rw [run.gauge, noTasks]
  decide

end Watch

end ChangeRelay
