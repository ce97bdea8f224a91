import ChangeRelay.Proofs.Relay.FanOut
import ChangeRelay.Proofs.Watch.Forwarding
import ChangeRelay.Relay.Session

/-!
# A session is a run of each of its watches

A session takes the items of a watch in turns, and each turn is some steps of the watch
at work: the item is taken, and the change that comes out of it is accepted by the hub
and taken by the runner at once, or is refused if the hub is gone.  By induction the
whole loop over the replies is a run.  So what holds of all runs holds in a session: its
hub sees what the trackers report of the replies, watch by watch, and nothing else.
-/

namespace ChangeRelay

namespace Relay

/-! ## Traces one behind the other -/

namespace Trace

/-- A trace with another one behind it. -/
def append (earlier later : Trace) : Trace where
  log := earlier.log ++ later.log
  measures := earlier.measures ++ later.measures
  calls := earlier.calls ++ later.calls
  printed := earlier.printed ++ later.printed
  requests := earlier.requests ++ later.requests

variable (earlier later : Trace)

@[simp]
theorem append_empty : earlier.append empty = earlier := by
  simp [append, empty]

@[simp]
theorem addLog_append (entries : List Log.Entry) :
    (earlier.append later).addLog entries = earlier.append (later.addLog entries) := by
  simp [append, addLog]

@[simp]
theorem addMeasure_append (measure : Metrics.Measure) :
    (earlier.append later).addMeasure measure = earlier.append (later.addMeasure measure) := by
  simp [append, addMeasure]

end Trace

end Relay

namespace Watch

open Relay

variable {resource : Resource}

/-! ## Turns as steps -/

section Turns

variable {first : Scene resource} {history : List (Deed resource)} {reader : Reader resource}
  {channel : Channel} {own : Trace} (run : Run first history ⟨reader, channel, own⟩)
  (reading : reader.phase = .reading)
include run reading

/-- A fault is taken. -/
theorem Run.take_fault (fault : Fault) :
    Run first (history ++ [.erred fault])
      ⟨reader, channel, own.addLog [Reader.faultEntry resource fault]⟩ := by
  have erred := run.step (.erred fault reading)
  rwa [Reader.take_fault reading] at erred

variable (notification : Notification resource)

/-- A notification is taken. -/
theorem Run.take_notification :
    Run first (history ++ [.told notification])
      ⟨⟨reader.tracker.next notification,
        Reader.phaseAfter (reader.tracker.report? notification)⟩, channel, own⟩ := by
  have told := run.step (.told notification reading)
  rwa [Reader.take_notification reading] at told

variable {change : Change} (due : reader.tracker.report? notification = some change)
include due

/-- A notification is taken, the channel accepts what comes out of it, and others take that out
of the channel again. -/
theorem Run.take_accepted (isOpen : channel.isOpen = true)
    (room : channel.queue.length < channel.capacity) :
    Run first (history ++ [.told notification] ++ [.accepted change] ++ [.moved channel])
      ⟨⟨reader.tracker.next notification, .reading⟩, channel, own⟩ := by
  have told := run.take_notification reading notification
  rw [due] at told
  have taken := (Channel.send_eq_accepted_iff change channel _).mpr
    ((Channel.offer_eq_ok_iff ..).mpr ⟨isOpen, room, rfl⟩)
  have accepted := told.step (.accepted rfl taken)
  rw [Reader.afterSending_accepted rfl] at accepted
  exact accepted.step (Step.moved fun closed => closed)

/-- A notification is taken, and what comes out of it is refused. -/
theorem Run.take_refused (closed : channel.isOpen = false) :
    let (next, trace) := Reader.finish (.ok ()) ⟨reader.tracker.next notification, .sending change⟩
      (own.addLog [Log.debug "K8s ingestor channel closed" [("kind", resource.kind)]])
    Run first (history ++ [.told notification] ++ [.refused change]) ⟨next, channel, trace⟩ := by
  have told := run.take_notification reading notification
  rw [due] at told
  have failed := (Channel.send_eq_failed_iff change channel _ _).mpr ⟨closed, rfl, rfl⟩
  have refused := told.step (.refused rfl failed)
  rwa [Reader.afterSending_failed rfl] at refused

end Turns

theorem Reader.finish_append (result : Except PluginError Unit) (reader : Reader resource)
    (earlier own : Trace) :
    reader.finish result (earlier.append own) =
      ((reader.finish result own).1, earlier.append (reader.finish result own).2) := by
  simp [finish]

/-! ## Items -/

/-- The notification that an item is. -/
def Item.notification? : Item resource → Option (Notification resource)
  | .notification told => some told
  | .fault _ => none

/-- The item that a deed takes. -/
@[simp]
def Deed.item? : Deed resource → Option (Item resource)
  | .told notification => some (.notification notification)
  | .erred fault => some (.fault fault)
  | .accepted _ | .refused _ | .exhausted | .moved _ => none

/-- The items that a reader took. -/
def itemsTaken (history : List (Deed resource)) : List (Item resource) :=
  history.filterMap (·.item?)

@[simp]
theorem itemsTaken_concat (history : List (Deed resource)) (deed : Deed resource) :
    itemsTaken (history ++ [deed]) = itemsTaken history ++ deed.item?.toList := by
  cases deed <;> simp [itemsTaken]

theorem notifications_eq (history : List (Deed resource)) :
    notifications history = (itemsTaken history).filterMap (·.notification?) := by
  simp only [notifications, itemsTaken, List.filterMap_filterMap]
  congr 1
  funext deed
  cases deed <;> rfl

/-- The items that the replies to a watch bring, from some progress on. -/
def itemsOf : List Reply → Progress resource → List (Item resource)
  | [], progress => progress.items
  | reply :: replies, progress =>
      progress.items ++ itemsOf replies (.ofReply progress.question reply)

/-- What a watch is told by the replies to it. -/
def toldBy (resource : Resource) (replies : List Reply) : List (Notification resource) :=
  (itemsOf replies .beginning).filterMap (·.notification?)

end Watch

namespace Relay

open Watch

/-! ## The hub of a session -/

/-- A pipeline whose runner took some changes more. -/
def Pipeline.after (pipeline : Pipeline) (changes : List Change) : Pipeline :=
  { pipeline with runner := pipeline.runner.processAll changes }

@[simp]
theorem Pipeline.after_nil (pipeline : Pipeline) : pipeline.after [] = pipeline :=
  rfl

theorem Pipeline.after_append (pipeline : Pipeline) (changes later : List Change) :
    pipeline.after (changes ++ later) = (pipeline.after changes).after later := by
  simp [after, Runner.processAll]

namespace Surroundings

/-- The channel into which the watches send.  That of a hub that is gone is closed. -/
def channel (around : Surroundings) : Channel :=
  match around.pipeline with
  | some pipeline => pipeline.channel
  | none => ⟨0, [], 0, false⟩

/-- If there is a hub, it takes changes, and its runner has taken all of them. -/
def Ready (around : Surroundings) : Prop :=
  ∀ pipeline, around.pipeline = some pipeline →
    pipeline.channel.isOpen = true ∧ pipeline.channel.queue = [] ∧ 0 < pipeline.channel.capacity

end Surroundings

namespace Session

variable {resource : Resource}

/-- A watch that began in some surroundings has come this far: some items have reached it, the
reader and the surroundings are what a history of steps led to, and the runner of the hub has
taken what was accepted. -/
structure Reached (first : Scene resource) (origin : Surroundings) (items : List (Item resource))
    (history : List (Deed resource)) (reader : Reader resource) (around : Surroundings) :
    Prop where
  run : ∃ own, around.trace = origin.trace.append own ∧
    Run first history ⟨reader, origin.channel, own⟩
  pipeline : around.pipeline = origin.pipeline.map (·.after (Watch.acceptedChanges history))
  /-- Between two turns no change waits to be sent. -/
  idle : ∀ change, reader.phase ≠ .sending change
  ended : ∀ result, reader.phase = .ended result → origin.pipeline = none ∧ result = .ok ()
  taken : itemsTaken history <+: items
  all : reader.phase = .reading → itemsTaken history = items

/-! ## One turn -/

section Turn

variable {reader : Reader resource} {around : Surroundings}

theorem turn_of_ended {result : Except PluginError Unit} (ended : reader.phase = .ended result)
    (item : Item resource) : turn item reader around = (reader, around) := by
  simp [turn, Reader.take, deliver, ended]

variable (reading : reader.phase = .reading)
include reading

theorem turn_fault (fault : Fault) :
    turn (.fault fault) reader around =
      (reader,
        { around with trace := around.trace.addLog [Reader.faultEntry resource fault] }) := by
  simp only [turn, Reader.take_fault reading, deliver, reading]

theorem turn_of_silent {notification : Notification resource}
    (silent : reader.tracker.report? notification = none) :
    turn (.notification notification) reader around =
      (⟨reader.tracker.next notification, .reading⟩, around) := by
  simp only [turn, Reader.take_notification reading, deliver, silent, Reader.phaseAfter]

variable {notification : Notification resource} {change : Change}
  (due : reader.tracker.report? notification = some change)
include due

/-- The hub accepts the change, and its runner takes it at once. -/
theorem turn_of_accepted {pipeline : Pipeline} (hub : around.pipeline = some pipeline)
    (isOpen : pipeline.channel.isOpen = true) (empty : pipeline.channel.queue = [])
    (room : 0 < pipeline.channel.capacity) :
    turn (.notification notification) reader around =
      (⟨reader.tracker.next notification, .reading⟩,
        { around with pipeline := some (pipeline.after [change]) }) := by
  have taken : pipeline.channel.send change =
      (.accepted, { pipeline.channel with queue := [change] }) :=
    (Channel.send_eq_accepted_iff ..).mpr ((Channel.offer_eq_ok_iff ..).mpr
      ⟨isOpen, by rwa [empty], by rw [empty, List.nil_append]⟩)
  simp only [turn, Reader.take_notification reading, deliver, due, Reader.phaseAfter, hub, taken,
    Reader.afterSending, Pipeline.drain, Pipeline.after, ← empty]

/-- The hub is gone, and the watch ends. -/
theorem turn_of_refused (gone : around.pipeline = none) :
    turn (.notification notification) reader around =
      let (next, trace) := Reader.finish (.ok ())
        ⟨reader.tracker.next notification, .sending change⟩
        (around.trace.addLog [Log.debug "K8s ingestor channel closed" [("kind", resource.kind)]])
      (next, ⟨none, trace⟩) := by
  simp only [turn, Reader.take_notification reading, deliver, due, Reader.phaseAfter, gone,
    Reader.afterSending]

end Turn

section Reached

variable {first : Scene resource} {origin : Surroundings} {items : List (Item resource)}
  {history : List (Deed resource)} {reader : Reader resource} {around : Surroundings}

/-- A watch that has taken all items and reads on has come as far as its run. -/
theorem Reached.of_reading {own : Trace} (run : Run first history ⟨reader, origin.channel, own⟩)
    (reading : reader.phase = .reading) (all : itemsTaken history = items)
    (traced : around.trace = origin.trace.append own)
    (pipeline : around.pipeline = origin.pipeline.map (·.after (Watch.acceptedChanges history))) :
    Reached first origin items history reader around where
  run := ⟨own, traced, run⟩
  pipeline := pipeline
  idle _ about := by cases reading.symm.trans about
  ended _ ended := by cases reading.symm.trans ended
  taken := all ▸ List.prefix_rfl
  all _ := all

variable (reached : Reached first origin items history reader around)
include reached

/-- What reaches a watch that has ended makes no difference. -/
theorem Reached.of_ended {result : Except PluginError Unit} (ended : reader.phase = .ended result)
    (more : List (Item resource)) : Reached first origin (items ++ more) history reader around :=
  { reached with
    taken := reached.taken.trans (List.prefix_append items more)
    all := fun reading => by cases ended.symm.trans reading }

section Reading

variable (reading : reader.phase = .reading)
include reading

theorem Reached.turn_fault (fault : Fault) :
    ∃ longer, Reached first origin (items ++ [.fault fault]) longer
      (turn (.fault fault) reader around).1 (turn (.fault fault) reader around).2 := by
  rcases reached.run with ⟨own, traced, run⟩
  rw [Session.turn_fault reading]
  exact ⟨_, .of_reading (run.take_fault reading fault) reading
    (by rw [itemsTaken_concat, reached.all reading]; rfl)
    (by rw [traced, Trace.addLog_append]) (by simp [reached.pipeline])⟩

variable {notification : Notification resource}

theorem Reached.turn_silent (silent : reader.tracker.report? notification = none) :
    ∃ longer, Reached first origin (items ++ [.notification notification]) longer
      (turn (.notification notification) reader around).1
      (turn (.notification notification) reader around).2 := by
  rcases reached.run with ⟨own, traced, run⟩
  have told := run.take_notification reading notification
  rw [silent] at told
  rw [turn_of_silent reading silent]
  exact ⟨_, .of_reading told rfl (by rw [itemsTaken_concat, reached.all reading]; rfl) traced
    (by simp [reached.pipeline])⟩

variable {change : Change} (due : reader.tracker.report? notification = some change)
include due

theorem Reached.turn_refused (gone : origin.pipeline = none) :
    ∃ longer, Reached first origin (items ++ [.notification notification]) longer
      (turn (.notification notification) reader around).1
      (turn (.notification notification) reader around).2 := by
  rcases reached.run with ⟨own, traced, run⟩
  have closed : origin.channel.isOpen = false := by rw [Surroundings.channel, gone]
  rw [turn_of_refused reading due (by rw [reached.pipeline, gone]; rfl), traced,
    Trace.addLog_append, Reader.finish_append]
  exact ⟨_, {
    run := ⟨_, rfl, run.take_refused reading notification due closed⟩
    pipeline := by rw [gone]; rfl
    idle := nofun
    ended := by
      rintro result ⟨⟩
      exact ⟨gone, rfl⟩
    taken := by
      simp only [itemsTaken_concat, Deed.item?, reached.all reading, Option.toList_some,
        Option.toList_none, List.append_nil, List.prefix_rfl]
    all := nofun }⟩

theorem Reached.turn_accepted {pipeline : Pipeline} (hub : origin.pipeline = some pipeline)
    (ready : origin.Ready) :
    ∃ longer, Reached first origin (items ++ [.notification notification]) longer
      (turn (.notification notification) reader around).1
      (turn (.notification notification) reader around).2 := by
  rcases reached.run with ⟨own, traced, run⟩
  rcases ready pipeline hub with ⟨isOpen, empty, room⟩
  have channel : origin.channel = pipeline.channel := by rw [Surroundings.channel, hub]
  have accepted := run.take_accepted reading notification due (by rwa [channel])
    (by rwa [channel, empty])
  have now : around.pipeline = some (pipeline.after (Watch.acceptedChanges history)) := by
    rw [reached.pipeline, hub]
    rfl
  rw [turn_of_accepted reading due now isOpen empty room, ← Pipeline.after_append]
  refine ⟨_, .of_reading accepted rfl ?_ traced ?_⟩
  · simp only [itemsTaken_concat, Deed.item?, reached.all reading, Option.toList_some,
      Option.toList_none, List.append_nil]
  · simp only [Watch.acceptedChanges_concat, Deed.accepted?, hub, Option.toList_some,
      Option.toList_none, List.append_nil, Option.map_some]

end Reading

/-- One item more reaches the watch, and its turn is some steps more. -/
theorem Reached.turn (ready : origin.Ready) (item : Item resource) :
    ∃ longer, Reached first origin (items ++ [item]) longer
      (turn item reader around).1 (turn item reader around).2 := by
  cases phase : reader.phase with
  | sending change => exact absurd phase (reached.idle change)
  | ended result =>
      rw [turn_of_ended phase]
      exact ⟨history, reached.of_ended phase [item]⟩
  | reading =>
      cases item with
      | fault fault => exact reached.turn_fault phase fault
      | notification notification =>
          cases due : reader.tracker.report? notification with
          | none => exact reached.turn_silent phase due
          | some change =>
              cases hub : origin.pipeline with
              | none => exact reached.turn_refused phase due hub
              | some pipeline => exact reached.turn_accepted phase due hub ready

end Reached

/-! ## Whole watches -/

/-- Some items have reached a watch that began in some surroundings, by whatever history. -/
def Reaches (first : Scene resource) (origin : Surroundings) (items : List (Item resource))
    (reader : Reader resource) (around : Surroundings) : Prop :=
  ∃ history, Reached first origin items history reader around

theorem Reaches.takeAll {first : Scene resource} {origin : Surroundings}
    {items : List (Item resource)} {reader : Reader resource} {around : Surroundings}
    (ready : origin.Ready) (more : List (Item resource))
    (reaches : Reaches first origin items reader around) :
    Reaches first origin (items ++ more)
      (takeAll more reader around).1 (takeAll more reader around).2 := by
  induction more generalizing items reader around with
  | nil => rwa [List.append_nil]
  | cons item more ih =>
      rcases reaches with ⟨history, reached⟩
      rw [List.append_cons]
      exact ih (reached.turn ready item)

section Replies

variable (selection : Selection) (address : String) (progress : Progress resource)
  {reader : Reader resource} {around : Surroundings}

theorem resultOf_eq_some_iff {result : Except PluginError Unit} :
    resultOf reader = some result ↔ reader.phase = .ended result := by
  unfold resultOf
  cases reader.phase <;> simp

theorem runReplies_nil :
    (runReplies selection address [] progress reader around).2 =
      takeAll progress.items reader around := by
  rw [runReplies]
  generalize takeAll progress.items reader around = taken
  cases result : resultOf taken.1 <;> simp only [result]

variable (reply : Reply) (replies : List Reply)

theorem runReplies_cons_of_ended {result : Except PluginError Unit}
    (ended : resultOf (takeAll progress.items reader around).1 = some result) :
    (runReplies selection address (reply :: replies) progress reader around).2 =
      takeAll progress.items reader around := by
  rw [runReplies]
  generalize takeAll progress.items reader around = taken at ended ⊢
  simp only [ended]

theorem runReplies_cons_of_running
    (running : resultOf (takeAll progress.items reader around).1 = none) :
    (runReplies selection address (reply :: replies) progress reader around).2 =
      (runReplies selection address replies (.ofReply progress.question reply)
        (takeAll progress.items reader around).1 (takeAll progress.items reader around).2).2 := by
  rw [runReplies]
  generalize takeAll progress.items reader around = taken at running ⊢
  simp only [running]

end Replies

/-- The loop over the replies is a run over the items that they bring. -/
theorem Reaches.runReplies {first : Scene resource} {origin : Surroundings}
    {items : List (Item resource)} {reader : Reader resource} {around : Surroundings}
    (ready : origin.Ready) (selection : Selection) (address : String) (replies : List Reply)
    (progress : Progress resource) (reaches : Reaches first origin items reader around) :
    let outcome := (runReplies selection address replies progress reader around).2
    Reaches first origin (items ++ itemsOf replies progress) outcome.1 outcome.2 := by
  induction replies generalizing items progress reader around with
  | nil =>
      simp only [runReplies_nil, itemsOf]
      exact reaches.takeAll ready progress.items
  | cons reply replies ih =>
      have taken := reaches.takeAll ready progress.items
      cases result : resultOf (Session.takeAll progress.items reader around).1 with
      | some result =>
          rcases taken with ⟨history, reached⟩
          simp only [runReplies_cons_of_ended _ _ _ _ _ result, itemsOf, ← List.append_assoc]
          exact ⟨history, reached.of_ended (resultOf_eq_some_iff.mp result) _⟩
      | none =>
          simp only [runReplies_cons_of_running _ _ _ _ _ result, itemsOf, ← List.append_assoc]
          exact ih _ taken

/-! ## What comes of a watch -/

section Reached

variable {namespaceName : Option String} {origin around : Surroundings}
  {items : List (Item resource)} {history : List (Deed resource)} {reader : Reader resource}
  (reached : Reached (.beginning resource namespaceName origin.channel) origin items history
    reader around)

include reached

theorem Reached.standing :
    Standing (Tracker.empty.reports (notifications history)) (Watch.acceptedChanges history)
      reader.phase := by
  rcases reached.run with ⟨own, -, run⟩
  exact run.standing (by rintro result ⟨⟩)

/-- A watch that still reads has sent what is due. -/
theorem Reached.accepted_of_reading (reading : reader.phase = .reading) :
    Watch.acceptedChanges history =
      Tracker.empty.reports (items.filterMap (·.notification?)) := by
  rw [← reached.all reading, ← notifications_eq]
  have standing := reached.standing
  rw [reading] at standing
  cases standing with
  | reading all => exact all

/-- If nothing is due, a watch does not end. -/
theorem Reached.due_of_ended {result : Except PluginError Unit}
    (ended : reader.phase = .ended result) :
    Tracker.empty.reports (items.filterMap (·.notification?)) ≠ [] := by
  rcases reached.ended result ended with ⟨-, rfl⟩
  rcases reached.taken with ⟨rest, rfl⟩
  rw [List.filterMap_append, ← notifications_eq, Tracker.reports_append]
  have standing := reached.standing
  rw [ended] at standing
  cases standing with
  | refused others => simp [← others]

/-- With a hub, all that is due is taken.  Without one, a watch ends by what is due. -/
theorem Reached.outcome :
    let due := Tracker.empty.reports (items.filterMap (·.notification?))
    around.pipeline = origin.pipeline.map (·.after due) ∧
    resultOf reader = if origin.pipeline.isNone ∧ due ≠ [] then some (.ok ()) else none := by
  have ⟨own, traced, run⟩ := reached.run
  cases phase : reader.phase with
  | sending change => exact absurd phase (reached.idle change)
  | reading =>
      have all := reached.accepted_of_reading phase
      refine ⟨by rw [← all, reached.pipeline], ?_⟩
      have unended : resultOf reader = none := by rw [resultOf, phase]
      rw [unended, if_neg]
      rintro ⟨gone, some⟩
      have closed : origin.channel.isOpen = false := by
        rw [Surroundings.channel, Option.isNone_iff_eq_none.mp gone]
      exact some (all ▸ (run.closed closed).2)
  | ended result =>
      rcases reached.ended result phase with ⟨gone, rfl⟩
      refine ⟨by rw [reached.pipeline, gone]; rfl, ?_⟩
      rw [resultOf_eq_some_iff.mpr phase, if_pos]
      exact ⟨by rw [gone]; rfl, reached.due_of_ended phase⟩

end Reached

/-! ## Whole sessions -/

/-- The changes that are due from the watch of a resource by the replies to it. -/
def due (selection : Selection) (replies : String → List Reply) (resource : Resource) :
    List Change :=
  Tracker.empty.reports
    (toldBy resource (replies (Target.ofAddress (address resource selection)).path))

/-- How the watch of a resource ends, unless it waits for a reply. -/
def ending (hubIsGone : Bool) (due : List Change) : Option (Except PluginError Unit) :=
  if hubIsGone ∧ due ≠ [] then some (.ok ()) else none

variable (selection : Selection) (replies : String → List Reply) {around : Surroundings}

variable (resource) in
/-- A watch that has just begun. -/
theorem reached_start (namespaceName : Option String) :
    let (reader, trace) := (Reader.start namespaceName around.trace : Reader resource × Trace)
    Reached (.beginning resource namespaceName around.channel) around [] [] reader
      { around with trace } :=
  .of_reading .start rfl rfl
    (by simp [Trace.addLog, Trace.addMeasure, Trace.append, Trace.empty])
    (by simp [Watch.acceptedChanges])

/-- One watch of a session. -/
theorem runWatch_spec (ready : around.Ready) (resource : Resource) :
    let ran := runWatch selection replies resource around
    ran.1.resource = resource ∧
    ran.1.result = ending around.pipeline.isNone (due selection replies resource) ∧
    ran.2.pipeline = around.pipeline.map (·.after (due selection replies resource)) := by
  let namespaceName := if resource.isNamespaced then selection.namespaceName else none
  rcases Reaches.runReplies ready selection (address resource selection)
    (replies (Target.ofAddress (address resource selection)).path) .beginning
    ⟨[], reached_start resource namespaceName⟩ with ⟨history, reached⟩
  rcases reached.outcome with ⟨pipeline, result⟩
  exact ⟨rfl, result, pipeline⟩

omit selection replies in
theorem ready_after (ready : around.Ready) {next : Surroundings} {changes : List Change}
    (same : next.pipeline = around.pipeline.map (·.after changes)) : next.Ready := by
  intro pipeline hub
  rw [same] at hub
  rcases Option.map_eq_some_iff.mp hub with ⟨before, had, rfl⟩
  exact ready before had

/-- The watches of a session, one after another. -/
theorem runWatches_spec (ready : around.Ready) (resources : List Resource) :
    let ran := runWatches selection replies resources around
    ran.1.map (fun report => (report.resource, report.result)) =
      resources.map (fun resource =>
        (resource, ending around.pipeline.isNone (due selection replies resource))) ∧
    ran.2.pipeline = around.pipeline.map (·.after (resources.flatMap (due selection replies))) := by
  induction resources generalizing around with
  | nil => exact ⟨rfl, by simp [runWatches]⟩
  | cons resource resources ih =>
      have watched := runWatch_spec selection replies ready resource
      simp only [runWatches, List.map_cons, List.flatMap_cons]
      generalize runWatch selection replies resource around = ran at watched ⊢
      rcases watched with ⟨same, result, pipeline⟩
      rcases ih (ready_after ready pipeline) with ⟨results, last⟩
      constructor
      · rw [same, result, results, pipeline, Option.isNone_map]
      · rw [last, pipeline, Option.map_map]
        congr 1
        funext before
        exact (before.after_append _ _).symm

end Session

/-- A session whose hub has a capacity in range is a run of its hub over what the trackers
report of the replies, watch by watch.  No watch ends but for the hub: a watch that has
something to send to a hub that is gone ends well. -/
theorem runSession_spec (selection : Selection) (replies : String → List Reply)
    (resources : List Resource) (hub : Hub) (hubIsGone : Bool) {channel : Channel}
    (opened : hub.openChannel? = some channel) :
    ∃ report, runSession selection replies resources hub hubIsGone = some report ∧
      report.watches.map (fun watch => (watch.resource, watch.result)) =
        resources.map (fun resource =>
          (resource, Session.ending hubIsGone (Session.due selection replies resource))) ∧
      report.hub = if hubIsGone then none
        else some (hub.run (resources.flatMap (Session.due selection replies))) := by
  obtain ⟨⟨positive, -⟩, rfl⟩ := (Channel.new?_eq_some_iff _ _).mp opened
  let around : Surroundings :=
    ⟨if hubIsGone then none else some ⟨⟨hub.capacity, [], 1, true⟩, hub.start⟩, .empty⟩
  have ready : around.Ready := by
    cases hubIsGone with
    | true => nofun
    | false =>
        rintro pipeline ⟨⟩
        exact ⟨rfl, rfl, positive⟩
  rcases Session.runWatches_spec selection replies ready resources with ⟨results, last⟩
  refine ⟨_, by rw [runSession, opened]; rfl, ?_⟩
  cases hubIsGone <;> exact ⟨results, congrArg (Option.map (·.drain.runner.finish)) last⟩

end Relay

end ChangeRelay
