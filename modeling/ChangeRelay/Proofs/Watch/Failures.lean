import ChangeRelay.Proofs.Watch.Gauge
import Mathlib.Data.List.Forall2

/-!
# Failures of a group of watches

The owner of a group asks for one failure after another, while watches are spawned and come to
their ends.  A question takes the watches that ended well, up to the first one that failed; when
none has failed it waits, and is asked again when another watch has ended.

What carries the proofs is an account of the watches that the questions have taken: those are a
front part of the watches that ended, and what was reported and logged is what they are worth.
-/

namespace ChangeRelay.Watch

/-! ## How a watch ended -/

namespace Finished

/-- The watch came to its end without an error. -/
def endedWell (finished : Finished) : Bool :=
  match finished.ending with
  | .returned (.ok ()) => true
  | .returned (.error _) | .died _ => false

/-- The watch broke off. -/
def hasDied (finished : Finished) : Bool :=
  match finished.ending with
  | .died _ => true
  | .returned _ => false

theorem failure?_eq_none_iff {finished : Finished} :
    finished.failure? = none ↔ finished.endedWell = true := by
  obtain ⟨resource, result | description⟩ := finished
  · cases result <;> simp [failure?, endedWell]
  · simp [failure?, endedWell]

theorem level_entry (finished : Finished) :
    finished.entry.level = if finished.endedWell then .debug else .error := by
  obtain ⟨resource, result | description⟩ := finished
  · cases result <;> rfl
  · rfl

theorem length_filterMap_failure? (all : List Finished) :
    (all.filterMap failure?).length = all.countP (fun finished => !finished.endedWell) := by
  rw [List.length_filterMap_eq_countP]
  refine List.countP_congr fun finished _ => ?_
  simp [Option.isSome_iff_ne_none, failure?_eq_none_iff]

/-- No failures are among watches that ended well. -/
theorem filterMap_failure?_eq_nil {clean : List Finished}
    (well : ∀ finished ∈ clean, finished.endedWell = true) : clean.filterMap failure? = [] :=
  List.filterMap_eq_nil_iff.mpr fun finished member =>
    failure?_eq_none_iff.mpr (well finished member)

/-- Among watches that ended there is a first one that failed, or all ended well. -/
theorem exists_first_failure (all : List Finished) :
    (∀ finished ∈ all, finished.endedWell = true) ∨
      ∃ clean failing rest error, all = clean ++ failing :: rest ∧
        (∀ finished ∈ clean, finished.endedWell = true) ∧ failing.failure? = some error := by
  induction all with
  | nil => exact .inl (by simp)
  | cons first others ih =>
      cases failed : first.failure? with
      | some error => exact .inr ⟨[], first, others, error, rfl, by simp, failed⟩
      | none =>
          have firstWell := failure?_eq_none_iff.mp failed
          rcases ih with well | ⟨clean, failing, rest, error, rfl, well, fails⟩
          · exact .inl (List.forall_mem_cons.mpr ⟨firstWell, well⟩)
          · exact .inr ⟨first :: clean, failing, rest, error, rfl,
              List.forall_mem_cons.mpr ⟨firstWell, well⟩, fails⟩

end Finished

namespace Group

/-! ## One question -/

theorem findFailure_of_endedWell {clean : List Finished}
    (well : ∀ finished ∈ clean, finished.endedWell = true) :
    findFailure clean = (none, [], clean.map Finished.entry) := by
  induction clean with
  | nil => rfl
  | cons first others ih =>
      obtain ⟨firstWell, othersWell⟩ := List.forall_mem_cons.mp well
      rw [findFailure, Finished.failure?_eq_none_iff.mpr firstWell, ih othersWell]
      rfl

theorem findFailure_append_cons {clean rest : List Finished} {failing : Finished}
    {error : RelayError} (well : ∀ finished ∈ clean, finished.endedWell = true)
    (fails : failing.failure? = some error) :
    findFailure (clean ++ failing :: rest) =
      (some error, rest, (clean ++ [failing]).map Finished.entry) := by
  induction clean with
  | nil =>
      rw [List.nil_append, findFailure, fails]
      rfl
  | cons first others ih =>
      obtain ⟨firstWell, othersWell⟩ := List.forall_mem_cons.mp well
      rw [List.cons_append, findFailure, Finished.failure?_eq_none_iff.mpr firstWell,
        ih othersWell]
      rfl

/-- A question finds the first failure and takes the watches up to it, or it takes all that
ended and finds out whether others still run. -/
theorem nextFailure_cases (group : Group) :
    (∃ clean failing rest error, group.finished = clean ++ failing :: rest ∧
      (∀ finished ∈ clean, finished.endedWell = true) ∧ failing.failure? = some error ∧
      group.nextFailure =
        (.failed error, ⟨group.running, rest⟩, (clean ++ [failing]).map Finished.entry)) ∨
    ((∀ finished ∈ group.finished, finished.endedWell = true) ∧
      group.nextFailure =
        (if group.running.isEmpty then .noneLeft else .waiting, ⟨group.running, []⟩,
          group.finished.map Finished.entry)) := by
  rcases Finished.exists_first_failure group.finished with
    well | ⟨clean, failing, rest, error, here, well, fails⟩
  · refine .inr ⟨well, ?_⟩
    rw [nextFailure, findFailure_of_endedWell well]
  · refine .inl ⟨clean, failing, rest, error, here, well, fails, ?_⟩
    rw [nextFailure, here, findFailure_append_cons well fails]

/-- No watch is left exactly if none runs and all that ended and were not taken ended well. -/
theorem nextFailure_eq_noneLeft_iff (group : Group) :
    group.nextFailure.1 = .noneLeft ↔
      group.running = [] ∧ ∀ finished ∈ group.finished, finished.endedWell = true := by
  rcases nextFailure_cases group with
    ⟨clean, failing, rest, error, here, -, fails, answered⟩ | ⟨well, answered⟩
  · simp only [answered, reduceCtorEq, here, false_iff, not_and]
    intro _ well
    have failingWell := well failing (by simp)
    rw [← Finished.failure?_eq_none_iff, fails] at failingWell
    cases failingWell
  · rw [answered]
    cases group.running with
    | nil => simpa using well
    | cons => simp

/-- The answers to some questions in a row. -/
def answers : Nat → Group → List NextFailure
  | 0, _ => []
  | questions + 1, group => group.nextFailure.1 :: answers questions group.nextFailure.2.1

theorem take_append_replicate_succ (found : List NextFailure) (last : NextFailure)
    (questions : Nat) :
    (found ++ List.replicate (questions + 1) last).take questions =
      (found ++ List.replicate questions last).take questions := by
  rw [List.replicate_succ', ← List.append_assoc, List.take_append_of_le_length (by simp)]

/-- Questions in a row find the failures one by one, and then nothing any more. -/
theorem answers_eq (questions : Nat) (group : Group) :
    group.answers questions =
      ((group.finished.filterMap Finished.failure?).map NextFailure.failed ++
        List.replicate questions
          (if group.running.isEmpty then NextFailure.noneLeft else .waiting)).take questions := by
  induction questions generalizing group with
  | zero => rfl
  | succ questions ih =>
      rcases nextFailure_cases group with
        ⟨clean, failing, rest, error, here, well, fails, answered⟩ | ⟨well, answered⟩
      · rw [answers, answered, ih, here]
        rw [List.filterMap_append, Finished.filterMap_failure?_eq_nil well, List.nil_append,
          List.filterMap_cons_some fails, List.map_cons, List.cons_append, List.take_succ_cons,
          take_append_replicate_succ]
      · rw [answers, answered, ih, Finished.filterMap_failure?_eq_nil well]
        simp [List.replicate_succ]

end Group

/-! ## Many questions -/

/-- What can happen to a group as long as nobody breaks it off. -/
inductive Incident where
  | spawned (resource : Resource)
  | ended (finished : Finished)
  /-- The owner asks and gets this answer, and this is logged.  Waiting is no answer yet: the
  question is asked again. -/
  | asked (answer : NextFailure) (log : List Log.Entry)

namespace Incident

/-- The resource of the watch that is spawned. -/
def spawned? : Incident → Option Resource
  | spawned resource => some resource
  | _ => none

/-- The watch that came to its end. -/
def ended? : Incident → Option Finished
  | ended finished => some finished
  | _ => none

/-- The failure that is reported. -/
def reported? : Incident → Option RelayError
  | asked (.failed error) _ => some error
  | _ => none

/-- What is logged. -/
def logged : Incident → List Log.Entry
  | asked _ log => log
  | _ => []

end Incident

/-- The resources of the watches that were spawned. -/
def spawnedIn (history : List Incident) : List Resource :=
  history.filterMap (·.spawned?)

/-- The watches that came to their ends, in this order. -/
def endedIn (history : List Incident) : List Finished :=
  history.filterMap (·.ended?)

/-- The failures that were reported, in this order. -/
def reportedIn (history : List Incident) : List RelayError :=
  history.filterMap (·.reported?)

/-- What was logged. -/
def loggedIn (history : List Incident) : List Log.Entry :=
  history.flatMap (·.logged)

section Concat

variable (history : List Incident) (incident : Incident)

@[simp]
theorem spawnedIn_concat :
    spawnedIn (history ++ [incident]) = spawnedIn history ++ incident.spawned?.toList := by
  cases found : incident.spawned? <;> simp [spawnedIn, found]

@[simp]
theorem endedIn_concat :
    endedIn (history ++ [incident]) = endedIn history ++ incident.ended?.toList := by
  cases found : incident.ended? <;> simp [endedIn, found]

@[simp]
theorem reportedIn_concat :
    reportedIn (history ++ [incident]) = reportedIn history ++ incident.reported?.toList := by
  cases found : incident.reported? <;> simp [reportedIn, found]

@[simp]
theorem loggedIn_concat :
    loggedIn (history ++ [incident]) = loggedIn history ++ incident.logged := by
  simp [loggedIn]

end Concat

namespace Group

/-- One thing happens to a group. -/
inductive Step : Group → Incident → Group → Prop where
  | spawned {group : Group} (resource : Resource) :
      Step group (.spawned resource) (group.spawn resource)
  | ended {group : Group} {finished : Finished} (runs : finished.resource ∈ group.running) :
      Step group (.ended finished) (group.finish finished)
  | asked {group : Group} :
      Step group (.asked group.nextFailure.1 group.nextFailure.2.2) group.nextFailure.2.1

/-- The group that a history leads to. -/
inductive Run : List Incident → Group → Prop where
  | start : Run [] .empty
  | step {history : List Incident} {incident : Incident} {group next : Group}
      (run : Run history group) (step : Step group incident next) :
      Run (history ++ [incident]) next

/-- The account of a group whose owner has taken some of the watches that ended. -/
structure Account (history : List Incident) (group : Group) (taken : List Finished) : Prop where
  ended : endedIn history = taken ++ group.finished
  spawned : (spawnedIn history).Perm (group.running ++ (endedIn history).map (·.resource))
  reported : reportedIn history = taken.filterMap Finished.failure?
  logged : loggedIn history = taken.map Finished.entry

variable {history : List Incident} {group next : Group} {incident : Incident}
  {taken : List Finished}

/-- The owner has to do with the watches that were spawned and not taken. -/
theorem Account.size_eq (account : Account history group taken) :
    group.size = (spawnedIn history).length - taken.length := by
  have roster := account.spawned.length_eq
  rw [account.ended] at roster
  simp only [List.length_append, List.length_map] at roster
  rw [size]
  omega

/-- A watch that is spawned joins those that run. -/
theorem perm_of_spawned {running ended : List Resource} (resource : Resource) :
    (running ++ ended ++ [resource]).Perm (running ++ [resource] ++ ended) := by
  simpa using (List.perm_append_singleton resource ended).append_left running

/-- A watch that comes to its end leaves those that run. -/
theorem perm_of_ended {running ended : List Resource} {resource : Resource}
    (runs : resource ∈ running) :
    (running ++ ended).Perm (running.erase resource ++ ended ++ [resource]) :=
  ((List.perm_cons_erase runs).append_right ended).trans
    (List.perm_append_singleton resource (running.erase resource ++ ended)).symm

/-- Whatever happens, the account can be continued. -/
theorem Account.step (account : Account history group taken) (step : Step group incident next) :
    ∃ more, Account (history ++ [incident]) next (taken ++ more) := by
  obtain ⟨ended, spawned, reported, logged⟩ := account
  -- Only a question takes watches; the other steps keep the account as it is.
  cases step with
  | spawned resource =>
      have joined := (spawned.append_right [resource]).trans (perm_of_spawned resource)
      exact ⟨[], {
        ended := by simpa [Incident.ended?, spawn] using ended
        spawned := by simpa [Incident.spawned?, Incident.ended?, spawn] using joined
        reported := by simpa [Incident.reported?] using reported
        logged := by simpa [Incident.logged] using logged }⟩
  | ended runs =>
      have left := spawned.trans (perm_of_ended runs)
      exact ⟨[], {
        ended := by simp [Incident.ended?, finish, ended]
        spawned := by simpa [Incident.spawned?, Incident.ended?, finish] using left
        reported := by simpa [Incident.reported?] using reported
        logged := by simpa [Incident.logged] using logged }⟩
  | asked =>
      rcases nextFailure_cases group with
        ⟨clean, failing, rest, error, here, well, fails, answered⟩ | ⟨well, answered⟩
      · have nothing := Finished.filterMap_failure?_eq_nil well
        exact ⟨clean ++ [failing], {
          ended := by simp [Incident.ended?, answered, ended, here]
          spawned := by simpa [Incident.spawned?, Incident.ended?, answered] using spawned
          reported := by simp [Incident.reported?, answered, reported, nothing, fails]
          logged := by simp [Incident.logged, answered, logged] }⟩
      · have nothing := Finished.filterMap_failure?_eq_nil well
        exact ⟨group.finished, {
          ended := by simp [Incident.ended?, answered, ended]
          spawned := by simpa [Incident.spawned?, Incident.ended?, answered] using spawned
          reported := by
            rw [answered]
            cases group.running.isEmpty <;> simp [Incident.reported?, reported, nothing]
          logged := by simp [Incident.logged, answered, logged] }⟩

theorem Run.exists_account (run : Run history group) : ∃ taken, Account history group taken := by
  induction run with
  | start => exact ⟨[], rfl, .nil, rfl, rfl⟩
  | step run step ih =>
      obtain ⟨taken, account⟩ := ih
      obtain ⟨more, account⟩ := account.step step
      exact ⟨_, account⟩

/-- The failures that were reported are those of the watches that were taken, each once and in
the order of their ends, and every watch that was taken left one entry in the log.  A question
takes the watches that ended well up to the first failure.  No watch is left exactly if all that
were not taken ended well, and questions in a row find the failures that there still are. -/
theorem failures_are_reported_once_in_their_order (run : Run history group) :
    (∃ taken, Account history group taken ∧
      (reportedIn history).length = taken.countP (fun finished => !finished.endedWell) ∧
      (loggedIn history).map (·.level) =
        taken.map (fun finished => if finished.endedWell then .debug else .error) ∧
      group.size = (spawnedIn history).length - taken.length) ∧
    (∀ error, group.nextFailure.1 = .failed error →
      ∃ clean failing, group.finished = clean ++ failing :: group.nextFailure.2.1.finished ∧
        (∀ finished ∈ clean, finished.endedWell = true) ∧ failing.failure? = some error) ∧
    (group.nextFailure.1 = .noneLeft ↔
      group.running = [] ∧ ∀ finished ∈ group.finished, finished.endedWell = true) ∧
    ∀ questions, group.answers questions =
      ((group.finished.filterMap Finished.failure?).map NextFailure.failed ++
        List.replicate questions
          (if group.running.isEmpty then NextFailure.noneLeft else .waiting)).take questions := by
  obtain ⟨taken, account⟩ := run.exists_account
  refine ⟨⟨taken, account, ?_, ?_, account.size_eq⟩, ?_, nextFailure_eq_noneLeft_iff group,
    fun questions => answers_eq questions group⟩
  · rw [account.reported, Finished.length_filterMap_failure?]
  · simp [account.logged, Finished.level_entry]
  · intro error failed
    rcases nextFailure_cases group with
      ⟨clean, failing, rest, found, here, well, fails, answered⟩ | ⟨-, answered⟩
    · rw [answered] at failed ⊢
      obtain rfl := NextFailure.failed.inj failed
      exact ⟨clean, failing, here, well, fails⟩
    · rw [answered] at failed
      dsimp only at failed
      split at failed <;> cases failed

/-- A watch ends well and is asked about, and another one fails. -/
def failingPods : List Incident :=
  [.spawned .pods, .spawned .jobs, .ended ⟨.jobs, .returned (.ok ())⟩,
    .asked .waiting [Log.debug "Watch finished" [("resource", "jobs")]],
    .ended ⟨.pods, .returned (.error (.watch "Pod watch stream ended"))⟩]

theorem run_failingPods :
    Run failingPods ⟨[], [⟨.pods, .returned (.error (.watch "Pod watch stream ended"))⟩]⟩ := by
  have spawned := (Run.start.step (.spawned .pods)).step (.spawned .jobs)
  have jobsEnded := spawned.step (@Step.ended _ ⟨.jobs, .returned (.ok ())⟩ (by decide))
  exact (jobsEnded.step .asked).step (.ended (by decide))

/-- The failure is reported once, and then there is none. -/
theorem failures_are_reported_once_in_their_order_failingPods :
    ∃ group, Run failingPods group ∧ group.size = 1 ∧ group.nextFailure.2.1.size = 0 ∧
      group.answers 3 =
        [.failed (.plugin "pods" "watch failed: Pod watch stream ended"), .noneLeft,
          .noneLeft] := by
  obtain ⟨-, -, -, answered⟩ := failures_are_reported_once_in_their_order run_failingPods
  exact ⟨_, run_failingPods, rfl, rfl, answered 3⟩

end Group

/-! ## Groups at work -/

/-- What a group goes through while its watches work is such a run, unless it is shut down. -/
theorem Crew.Run.exists_groupRun {channel : Relay.Channel} {turns : List Turn} {crew : Crew}
    (run : Crew.Run channel turns crew) (kept : ∀ tasks, Turn.shutDown tasks ∉ turns) :
    ∃ history, Group.Run history crew.group := by
  induction run with
  | start => exact ⟨[], .start⟩
  | @step turns turn crew next run step ih =>
      obtain ⟨history, groupRun⟩ :=
        ih fun tasks member => kept tasks (List.mem_append_left _ member)
      -- The crew and its group have the same roster, so that a task that ends was running.
      have runs {before after : List Task} {task : Task}
          (place : crew.tasks = before ++ task :: after) : task.resource ∈ crew.group.running :=
        run.roster.mem_iff.mpr (List.mem_map_of_mem (by simp [place]))
      cases step with
      | spawned resource => exact ⟨_, groupRun.step (.spawned resource)⟩
      | begun | acted | moved => exact ⟨history, groupRun⟩
      | returned place ended => exact ⟨_, groupRun.step (.ended (runs place))⟩
      | died description place => exact ⟨_, groupRun.step (.ended (runs place))⟩
      | asked => exact ⟨_, groupRun.step .asked⟩
      | shutDown =>
          exact absurd (List.mem_append_right _ (List.mem_singleton_self _)) (kept crew.tasks)

/-! ## Whom a failure names -/

namespace Finished

/-- The name for which the failure of a watch is reported. -/
def reportedName (finished : Finished) : String :=
  if finished.hasDied then "k8s" else finished.resource.name

theorem plugin_of_failure? {finished : Finished} {error : RelayError}
    (fails : finished.failure? = some error) :
    ∃ message, error = .plugin finished.reportedName message := by
  obtain ⟨resource, result | description⟩ := finished
  · cases result with
    | ok => cases fails
    | error cause =>
        cases fails
        exact ⟨_, rfl⟩
  · cases fails
    exact ⟨_, rfl⟩

theorem name_ne_k8s (resource : Resource) : resource.name ≠ "k8s" := by
  cases resource <;> decide

theorem reportedName_eq_iff (finished : Finished) :
    finished.reportedName = finished.resource.name ↔ finished.hasDied = false := by
  cases died : finished.hasDied with
  | false => simp [reportedName, died]
  | true => simpa [reportedName, died] using (name_ne_k8s finished.resource).symm

/-- Watches that failed stand beside their failures, one by one. -/
theorem forall₂_failures {Fit : Finished → RelayError → Prop}
    (fit : ∀ finished error, finished.failure? = some error → Fit finished error)
    (all : List Finished) :
    List.Forall₂ Fit (all.filter fun finished => !finished.endedWell)
      (all.filterMap failure?) := by
  induction all with
  | nil => exact .nil
  | cons first others ih =>
      cases failed : first.failure? with
      | none => simpa [failed, failure?_eq_none_iff.mp failed] using ih
      | some error =>
          have unwell : first.endedWell = false := by
            rw [← Bool.not_eq_true, ← failure?_eq_none_iff, failed]
            exact nofun
          simpa [failed, unwell] using ⟨fit first error failed, ih⟩

end Finished

namespace Group

variable {history : List Incident} {group : Group} {taken : List Finished}

/-- Only watches that were spawned are taken. -/
theorem Account.mem_spawnedIn (account : Account history group taken) {finished : Finished}
    (member : finished ∈ taken) : finished.resource ∈ spawnedIn history := by
  have inEnded : finished ∈ endedIn history := account.ended ▸ List.mem_append_left _ member
  exact account.spawned.mem_iff.mpr (List.mem_append_right _ (List.mem_map_of_mem inEnded))

/-- The failures that were reported name the resources of their watches, except for those of
watches that died: these name no resource at all. -/
theorem reports_name_resource_unless_watch_died (run : Run history group) :
    ∃ taken, endedIn history = taken ++ group.finished ∧
      (∀ finished ∈ taken, finished.resource ∈ spawnedIn history) ∧
      List.Forall₂ (fun finished error => ∃ name message, error = .plugin name message ∧
          (name = finished.resource.name ↔ finished.hasDied = false) ∧
          (finished.hasDied = true → ∀ resource : Resource, name ≠ resource.name))
        (taken.filter fun finished => !finished.endedWell) (reportedIn history) := by
  obtain ⟨taken, account⟩ := run.exists_account
  refine ⟨taken, account.ended, fun _ member => account.mem_spawnedIn member, ?_⟩
  rw [account.reported]
  refine Finished.forall₂_failures (fun finished error fails => ?_) taken
  obtain ⟨message, rfl⟩ := Finished.plugin_of_failure? fails
  refine ⟨_, message, rfl, finished.reportedName_eq_iff, fun died resource => ?_⟩
  rw [Finished.reportedName, if_pos died]
  exact (Finished.name_ne_k8s resource).symm

/-- A watch of Nodes dies, and is asked about. -/
def diedNodes : List Incident :=
  [.spawned .nodes, .ended ⟨.nodes, .died "task 1 panicked"⟩,
    .asked (.failed (.plugin "k8s" "watch failed: watch task died: task 1 panicked"))
      [Log.error "Watch task aborted or panicked" [("error", "task 1 panicked")]]]

theorem run_diedNodes : Run diedNodes .empty :=
  ((Run.start.step (.spawned .nodes)).step (.ended (by decide))).step .asked

/-- The failure that is reported names no resource. -/
theorem reports_name_resource_unless_watch_died_diedNodes :
    Run diedNodes .empty ∧ ∃ name message, reportedIn diedNodes = [.plugin name message] ∧
      ∀ resource : Resource, name ≠ resource.name := by
  refine ⟨run_diedNodes, ?_⟩
  obtain ⟨taken, ended, -, reported⟩ := reports_name_resource_unless_watch_died run_diedNodes
  obtain rfl : taken = [⟨.nodes, .died "task 1 panicked"⟩] :=
    (List.append_nil taken).symm.trans ended.symm
  obtain _ | ⟨⟨name, message, same, -, unnamed⟩, -⟩ := reported
  exact ⟨name, message, congrArg List.singleton same, unnamed rfl⟩

/-- The only watch that was spawned was one of Nodes, and the failure that was reported does not
name them. -/
theorem died_watch_reported_without_its_resource :
    Run diedNodes .empty ∧ spawnedIn diedNodes = [.nodes] ∧
      ∃ error, reportedIn diedNodes = [error] ∧
        ∀ message, error ≠ .plugin Resource.nodes.name message := by
  refine ⟨run_diedNodes, rfl, _, rfl, ?_⟩
  intro message same
  injection same with name
  exact Finished.name_ne_k8s .nodes name.symm

end Group

end ChangeRelay.Watch
