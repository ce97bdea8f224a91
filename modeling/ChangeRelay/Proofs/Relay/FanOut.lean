import ChangeRelay.Proofs.Since
import ChangeRelay.Relay.Hub

/-!
# Every emitter gets what the stages keep

The stages alone decide which changes are kept.  Each kept change is given to
every emitter once, one change after another and for each change one emitter
after another, whatever came of the calls before.  A failure is counted under
the name of its emitter and is seen nowhere else.  When all kept changes were given
to all emitters, the emitters are shut down one after another, and none is left out.
-/

namespace ChangeRelay.Relay

/-! ## What the stages keep -/

namespace Chain

theorem processAll_concat (chain : Chain) (changes : List Change) (change : Change) :
    chain.processAll (changes ++ [change]) =
      (((chain.processAll changes).1.process change).1,
        (chain.processAll changes).2 ++ [((chain.processAll changes).1.process change).2]) := by
  induction changes generalizing chain with
  | nil => rfl
  | cons first changes ih => simp only [List.cons_append, processAll, ih]

end Chain

namespace Hub

/-- The changes that the stages of a hub keep, as the stages leave them. -/
def kept (hub : Hub) (changes : List Change) : List Change :=
  ((Chain.ofStages hub.stages).processAll changes).2.filterMap (·.kept)

/-- What the stages make of a change after some changes. -/
def verdict (hub : Hub) (changes : List Change) (change : Change) : Verdict :=
  (((Chain.ofStages hub.stages).processAll changes).1.process change).2

theorem kept_concat (hub : Hub) (changes : List Change) (change : Change) :
    hub.kept (changes ++ [change]) =
      hub.kept changes ++ (hub.verdict changes change).kept.toList := by
  rw [kept, Chain.processAll_concat, List.filterMap_append, ← kept, ← verdict]
  cases kept : (hub.verdict changes change).kept <;> simp [kept]

end Hub

/-! ## Deliveries -/

/-- A call of an emitter with a change, and what came of it. -/
structure Delivery where
  emitter : Emitter
  change : Change
  emission : Emission

namespace Delivery

/-- Whether the emitter with a name failed to take the change. -/
def failedAt (name : String) (delivery : Delivery) : Bool :=
  delivery.emitter.name = name && !succeeded delivery.emission.result

/-- The call of a delivery. -/
def call (delivery : Delivery) : EmitterCall :=
  .emit delivery.emitter [delivery.change]

/-- What a delivery leaves behind. -/
def note (trace : Trace) (delivery : Delivery) : Trace :=
  Runner.noteEmission delivery.emitter delivery.change delivery.emission trace

end Delivery

/-- The batches in which changes are delivered: each change on its own, the
newest first. -/
def batches (changes : List Change) : List (List Change) :=
  (changes.map fun change => [change]).reverse

@[simp]
theorem batches_concat (changes : List Change) (change : Change) :
    batches (changes ++ [change]) = [change] :: batches changes := by
  simp [batches]

/-- An emitter is given a change after it was given some changes before. -/
def deliver (earlier : List Change) (change : Change) (emitter : Emitter) : Delivery :=
  ⟨emitter, change, emitter.emit (batches earlier) [change]⟩

/-- The deliveries of some changes: one change after another, and each change to
one emitter after another. -/
def deliveries (emitters : List Emitter) : List Change → List Change → List Delivery
  | _, [] => []
  | earlier, change :: later =>
      emitters.map (deliver earlier change) ++ deliveries emitters (earlier ++ [change]) later

theorem deliveries_concat (emitters : List Emitter) (earlier changes : List Change)
    (change : Change) :
    deliveries emitters earlier (changes ++ [change]) =
      deliveries emitters earlier changes ++
        emitters.map (deliver (earlier ++ changes) change) := by
  induction changes generalizing earlier with
  | nil => simp [deliveries]
  | cons first changes ih =>
      rw [List.cons_append, deliveries, deliveries, ih, List.append_assoc, List.append_assoc]
      rfl

/-- The calls with which changes are delivered: one change after another, and each
change to one emitter after another. -/
def emitCalls (emitters : List Emitter) (changes : List Change) : List EmitterCall :=
  changes.flatMap fun change => emitters.map fun emitter => .emit emitter [change]

theorem map_call_deliveries (emitters : List Emitter) (earlier changes : List Change) :
    (deliveries emitters earlier changes).map Delivery.call = emitCalls emitters changes := by
  induction changes generalizing earlier with
  | nil => rfl
  | cons change changes ih =>
      rw [deliveries, List.map_append, ih, List.map_map]
      rfl

/-! ## What deliveries leave behind -/

namespace Delivery

@[simp]
theorem calls_note (trace : Trace) (delivery : Delivery) :
    (note trace delivery).calls = trace.calls ++ [delivery.call] := by
  unfold note Runner.noteEmission
  split <;> rfl

@[simp]
theorem printed_note (trace : Trace) (delivery : Delivery) :
    (note trace delivery).printed = trace.printed ++ delivery.emission.printed := by
  unfold note Runner.noteEmission
  split <;> rfl

@[simp]
theorem requests_note (trace : Trace) (delivery : Delivery) :
    (note trace delivery).requests = trace.requests ++ delivery.emission.requests := by
  unfold note Runner.noteEmission
  split <;> rfl

/-- A delivery is measured exactly if it fails, under the name of its emitter. -/
theorem count_measures_note (name : String) (trace : Trace) (delivery : Delivery) :
    (note trace delivery).measures.count (.emitFailed name) =
      trace.measures.count (.emitFailed name) + if delivery.failedAt name then 1 else 0 := by
  obtain ⟨emitter, change, emission⟩ := delivery
  cases result : emission.result with
  | ok => simp [note, Runner.noteEmission, result, failedAt, succeeded, Trace.addLog, Trace.addCall]
  | error error =>
      by_cases same : emitter.name = name <;>
        simp [note, Runner.noteEmission, result, failedAt, succeeded, same, Trace.addLog,
          Trace.addCall, Trace.addMeasure]

end Delivery

theorem calls_foldl_note (trace : Trace) (all : List Delivery) :
    (all.foldl Delivery.note trace).calls = trace.calls ++ all.map Delivery.call := by
  induction all generalizing trace with
  | nil => simp
  | cons delivery all ih => simp [ih]

theorem printed_foldl_note (trace : Trace) (all : List Delivery) :
    (all.foldl Delivery.note trace).printed =
      trace.printed ++ String.join (all.map (·.emission.printed)) := by
  induction all generalizing trace with
  | nil => simp
  | cons delivery all ih => simp [ih, String.append_assoc]

theorem requests_foldl_note (trace : Trace) (all : List Delivery) :
    (all.foldl Delivery.note trace).requests =
      trace.requests ++ all.flatMap (·.emission.requests) := by
  induction all generalizing trace with
  | nil => simp
  | cons delivery all ih => simp [ih]

theorem count_measures_foldl_note (name : String) (trace : Trace) (all : List Delivery) :
    (all.foldl Delivery.note trace).measures.count (.emitFailed name) =
      trace.measures.count (.emitFailed name) + all.countP (·.failedAt name) := by
  induction all generalizing trace with
  | nil => simp
  | cons delivery all ih =>
      rw [List.foldl_cons, ih, Delivery.count_measures_note, List.countP_cons]
      omega

/-! ## One change -/

namespace Runner

theorem processAll_concat (runner : Runner) (changes : List Change) (change : Change) :
    runner.processAll (changes ++ [change]) = (runner.processAll changes).process change := by
  simp [processAll]

/-- A change is given to emitters that all were given the same changes before. -/
theorem fanOut_eq (emitters : List Emitter) (earlier : List Change) (change : Change)
    (trace : Trace) :
    fanOut change (emitters.map fun emitter => ⟨emitter, batches earlier⟩) trace =
      (emitters.map fun emitter => ⟨emitter, batches (earlier ++ [change])⟩,
        (emitters.map (deliver earlier change)).foldl Delivery.note trace) := by
  induction emitters generalizing trace with
  | nil => rfl
  | cons emitter emitters ih =>
      simp only [List.map_cons, fanOut, EmitterState.emit, ih, batches_concat, List.foldl_cons]
      rfl

/-- How a runner stands after it took some changes. -/
structure Served (hub : Hub) (changes : List Change) (runner : Runner) : Prop where
  chain : runner.chain = ((Chain.ofStages hub.stages).processAll changes).1
  emitters : runner.emitters =
    hub.emitters.map fun emitter => ⟨emitter, batches (hub.kept changes)⟩
  taken : runner.received = changes.reverse
  observed : runner.stats.observed = changes.length
  forwarded : runner.stats.forwarded = (hub.kept changes).length
  balanced : runner.stats.observed = runner.stats.forwarded + runner.stats.dropped
  calls : runner.trace.calls = (deliveries hub.emitters [] (hub.kept changes)).map Delivery.call
  printed : runner.trace.printed =
    String.join ((deliveries hub.emitters [] (hub.kept changes)).map (·.emission.printed))
  requests : runner.trace.requests =
    (deliveries hub.emitters [] (hub.kept changes)).flatMap (·.emission.requests)
  failures : ∀ name, runner.trace.measures.count (.emitFailed name) =
    (deliveries hub.emitters [] (hub.kept changes)).countP (·.failedAt name)

theorem served_start (hub : Hub) : Served hub [] hub.start where
  chain := rfl
  emitters := rfl
  taken := rfl
  observed := rfl
  forwarded := rfl
  balanced := rfl
  calls := rfl
  printed := rfl
  requests := rfl
  failures _ := rfl

theorem Served.process {hub : Hub} {changes : List Change} {runner : Runner}
    (served : Served hub changes runner) (change : Change) :
    Served hub (changes ++ [change]) (runner.process change) := by
  have verdict : runner.chain.process change =
      (((Chain.ofStages hub.stages).processAll (changes ++ [change])).1,
        hub.verdict changes change) := by
    rw [served.chain, Chain.processAll_concat]
    rfl
  have keptNow := hub.kept_concat changes change
  have balanced := served.balanced
  cases kept : (hub.verdict changes change).kept with
  | none =>
      rw [kept, Option.toList_none, List.append_nil] at keptNow
      simp only [Runner.process, verdict, kept]
      exact {
        chain := rfl
        emitters := by rw [served.emitters, keptNow]
        taken := by simp [served.taken]
        observed := by simp [served.observed]
        forwarded := by rw [served.forwarded, keptNow]
        balanced := by simp only; omega
        calls := by rw [keptNow]; exact served.calls
        printed := by rw [keptNow]; exact served.printed
        requests := by rw [keptNow]; exact served.requests
        failures := fun name => by
          rw [keptNow, ← served.failures name]
          simp [Trace.addMeasure, Trace.addLog] }
  | some outcome =>
      rw [kept, Option.toList_some] at keptNow
      simp only [Runner.process, verdict, kept, served.emitters, fanOut_eq]
      exact {
        chain := rfl
        emitters := by rw [keptNow]
        taken := by simp [served.taken]
        observed := by simp [served.observed]
        forwarded := by simp [served.forwarded, keptNow]
        balanced := by simp only; omega
        calls := by
          rw [keptNow, deliveries_concat, calls_foldl_note, List.map_append, ← served.calls]
          rfl
        printed := by
          rw [keptNow, deliveries_concat, printed_foldl_note, List.map_append, String.join_append,
            ← served.printed]
          rfl
        requests := by
          rw [keptNow, deliveries_concat, requests_foldl_note, List.flatMap_append,
            ← served.requests]
          rfl
        failures := fun name => by
          rw [keptNow, deliveries_concat, count_measures_foldl_note, List.countP_append,
            ← served.failures name]
          simp [Trace.addMeasure, Trace.addLog] }

/-- The runner of a hub after some changes. -/
theorem served_processAll (hub : Hub) (changes : List Change) :
    Served hub changes (hub.start.processAll changes) := by
  induction changes using List.reverseRecOn with
  | nil => exact served_start hub
  | append_singleton changes change ih =>
      rw [processAll_concat]
      exact ih.process change

end Runner

/-! ## The end of a run -/

/-- The shutdown of an emitter that was given some batches. -/
def Shutdown.of (received : List (List Change)) (emitter : Emitter) : Shutdown :=
  ⟨emitter.name, (emitter.shutdown received).result⟩

namespace Runner

section NoteShutdown

variable (emitter : Emitter) (emission : Emission) (trace : Trace)

@[simp]
theorem calls_noteShutdown :
    (noteShutdown emitter emission trace).calls = trace.calls ++ [.shutdown emitter] := by
  unfold noteShutdown
  split <;> rfl

@[simp]
theorem printed_noteShutdown :
    (noteShutdown emitter emission trace).printed = trace.printed ++ emission.printed := by
  unfold noteShutdown
  split <;> rfl

@[simp]
theorem requests_noteShutdown :
    (noteShutdown emitter emission trace).requests = trace.requests ++ emission.requests := by
  unfold noteShutdown
  split <;> rfl

@[simp]
theorem measures_noteShutdown :
    (noteShutdown emitter emission trace).measures = trace.measures := by
  unfold noteShutdown
  split <;> rfl

end NoteShutdown

/-- What is left behind when emitters were shut down that all were given some batches:
one call of each, what they print and send meanwhile, and no measure. -/
structure ShutDown (emitters : List Emitter) (received : List (List Change))
    (before after : Trace) : Prop where
  calls : after.calls = before.calls ++ emitters.map .shutdown
  printed : after.printed = before.printed ++
    String.join (emitters.map fun emitter => (emitter.shutdown received).printed)
  requests : after.requests = before.requests ++
    emitters.flatMap fun emitter => (emitter.shutdown received).requests
  measures : after.measures = before.measures

theorem shutDown_shutDownAll (emitters : List Emitter) (received : List (List Change))
    (trace : Trace) :
    ShutDown emitters received trace
      (shutDownAll (emitters.map fun emitter => ⟨emitter, received⟩) trace).2 := by
  induction emitters generalizing trace with
  | nil => constructor <;> simp [shutDownAll]
  | cons emitter emitters ih =>
      rcases ih (noteShutdown emitter (emitter.shutdown received) trace) with
        ⟨calls, printed, requests, measures⟩
      simp only [List.map_cons, shutDownAll, EmitterState.shutDown]
      constructor
      · simpa using calls
      · simpa [String.append_assoc] using printed
      · simpa using requests
      · simpa using measures

theorem fst_shutDownAll (emitters : List Emitter) (received : List (List Change)) (trace : Trace) :
    (shutDownAll (emitters.map fun emitter => ⟨emitter, received⟩) trace).1 =
      emitters.map (.of received) := by
  induction emitters generalizing trace with
  | nil => rfl
  | cons emitter emitters ih =>
      simp only [List.map_cons, shutDownAll, ih]
      rfl

theorem shutdownError?_concat (shutdowns : List Shutdown) (last : Shutdown) :
    shutdownError? (shutdowns ++ [last]) =
      match last.result with
      | .ok () => shutdownError? shutdowns
      | .error error => some error := by
  rw [shutdownError?, List.foldl_append]
  rfl

theorem shutdownError?_eq_some_iff (emitters : List Emitter) (received : List (List Change))
    (error : PluginError) :
    shutdownError? (emitters.map (.of received)) = some error ↔
      Since (fun _ emitter => (emitter.shutdown received).result = .error error)
        (fun _ emitter => succeeded (emitter.shutdown received).result = false) emitters := by
  induction emitters using List.reverseRecOn with
  | nil => simp [shutdownError?]
  | append_singleton emitters last ih =>
      rw [List.map_append, List.map_singleton, shutdownError?_concat, since_concat_iff, ← ih]
      cases result : (last.shutdown received).result with
      | ok => simp [Shutdown.of, succeeded, result]
      | error other => simp [Shutdown.of, succeeded, result]

theorem shutdownError?_eq_none_iff (emitters : List Emitter) (received : List (List Change)) :
    shutdownError? (emitters.map (.of received)) = none ↔
      ∀ emitter ∈ emitters, succeeded (emitter.shutdown received).result = true := by
  induction emitters using List.reverseRecOn with
  | nil => simp [shutdownError?]
  | append_singleton emitters last ih =>
      rw [List.map_append, List.map_singleton, shutdownError?_concat]
      cases result : (last.shutdown received).result with
      | ok => simp [Shutdown.of, ih, succeeded, result, or_imp, forall_and]
      | error other => simp [Shutdown.of, succeeded, result, or_imp, forall_and]

end Runner

/-! ## Counting failures -/

theorem count_emitFailures_recordAll (name : String) (measures : List Metrics.Measure)
    (registry : Metrics.Registry) :
    (registry.recordAll measures).emitFailures.count [name] =
      registry.emitFailures.count [name] + measures.count (.emitFailed name) := by
  induction measures generalizing registry with
  | nil => simp
  | cons measure measures ih =>
      rw [Metrics.Registry.recordAll_cons, ih, List.count_cons]
      cases measure with
      | emitFailed other =>
          simp [Metrics.Registry.record]
          omega
      | observed kind reason | forwarded kind | dropped kind | watchStarted | watchStopped =>
          simp [Metrics.Registry.record]

/-! ## Whole runs -/

/-- The report of a run over some changes shows that every emitter was served. -/
structure FanOut (hub : Hub) (changes : List Change) (report : Report) : Prop where
  observed : report.runner.stats.observed = changes.length
  forwarded : report.runner.stats.forwarded = (hub.kept changes).length
  balanced : report.runner.stats.observed =
    report.runner.stats.forwarded + report.runner.stats.dropped
  /-- Every emitter was given each kept change once, on its own and in the order
  in which the changes were observed. -/
  received : report.runner.emitters =
    hub.emitters.map fun emitter => ⟨emitter, batches (hub.kept changes)⟩
  /-- Every kept change was given to one emitter after another, and after the last one
  every emitter was shut down once.  There was no other call. -/
  calls : report.runner.trace.calls =
    emitCalls hub.emitters (hub.kept changes) ++ hub.emitters.map .shutdown
  /-- What the emitters print stands in the order of the calls. -/
  printed : report.runner.trace.printed =
    String.join ((deliveries hub.emitters [] (hub.kept changes)).map (·.emission.printed)) ++
      String.join (hub.emitters.map fun emitter =>
        (emitter.shutdown (batches (hub.kept changes))).printed)
  /-- What the emitters send stands in the order of the calls. -/
  requests : report.runner.trace.requests =
    (deliveries hub.emitters [] (hub.kept changes)).flatMap (·.emission.requests) ++
      hub.emitters.flatMap fun emitter =>
        (emitter.shutdown (batches (hub.kept changes))).requests
  failures : ∀ name, (report.runner.trace.updateMetrics .zero).emitFailures.count [name] =
    (deliveries hub.emitters [] (hub.kept changes)).countP (·.failedAt name)
  /-- What came of the shutdowns, each of an emitter that was given all kept changes. -/
  shutdowns : report.shutdowns = hub.emitters.map (.of (batches (hub.kept changes)))
  succeeds : report.result = .ok report.runner.stats ↔
    ∀ emitter ∈ hub.emitters,
      succeeded (emitter.shutdown (batches (hub.kept changes))).result = true
  /-- The error is that of the last emitter whose shutdown failed. -/
  fails : ∀ error, report.result = .error error ↔
    Since (fun _ emitter => (emitter.shutdown (batches (hub.kept changes))).result = .error error)
      (fun _ emitter =>
        succeeded (emitter.shutdown (batches (hub.kept changes))).result = false) hub.emitters

theorem fanOut_run (hub : Hub) (changes : List Change) : FanOut hub changes (hub.run changes) := by
  have served := Runner.served_processAll hub changes
  have shutDown := Runner.shutDown_shutDownAll hub.emitters (batches (hub.kept changes))
    (hub.start.processAll changes).trace
  have shutdowns := Runner.fst_shutDownAll hub.emitters (batches (hub.kept changes))
    (hub.start.processAll changes).trace
  rw [← served.emitters] at shutDown shutdowns
  have noError := Runner.shutdownError?_eq_none_iff hub.emitters (batches (hub.kept changes))
  have lastError := Runner.shutdownError?_eq_some_iff hub.emitters (batches (hub.kept changes))
  exact {
    observed := served.observed
    forwarded := served.forwarded
    balanced := served.balanced
    received := served.emitters
    calls := by
      rw [← map_call_deliveries hub.emitters [], ← served.calls]
      exact shutDown.calls
    printed := by rw [← served.printed]; exact shutDown.printed
    requests := by rw [← served.requests]; exact shutDown.requests
    failures := fun name => by
      rw [Trace.updateMetrics, count_emitFailures_recordAll, ← served.failures name,
        ← shutDown.measures]
      exact Nat.zero_add _
    shutdowns := shutdowns
    succeeds := by
      simp only [Hub.run, Runner.finish, shutdowns, ← noError]
      cases Runner.shutdownError? (hub.emitters.map (.of (batches (hub.kept changes)))) <;> simp
    fails := fun error => by
      simp only [Hub.run, Runner.finish, shutdowns, ← lastError]
      cases Runner.shutdownError? (hub.emitters.map (.of (batches (hub.kept changes)))) <;> simp }

namespace FanOut

variable {hub : Hub} {changes : List Change} {report : Report}

/-- The counts depend on the stages only. -/
theorem stats_eq (served : FanOut hub changes report) :
    report.runner.stats =
      ⟨changes.length, (hub.kept changes).length, changes.length - (hub.kept changes).length⟩ := by
  have observed := served.observed
  have forwarded := served.forwarded
  have balanced := served.balanced
  have dropped : report.runner.stats.dropped = changes.length - (hub.kept changes).length := by
    omega
  rw [← observed, ← forwarded] at dropped ⊢
  rw [← dropped]

/-- All emitters were given the same, as many times as there are emitters. -/
theorem map_received_eq (served : FanOut hub changes report) :
    report.runner.emitters.map (·.received) =
      List.replicate hub.emitters.length (batches (hub.kept changes)) := by
  rw [served.received, List.map_map, ← List.map_const']
  rfl

/-- What the calls are for depends on the stages and on the number of the emitters only. -/
theorem map_batch?_calls_eq (served : FanOut hub changes report) :
    report.runner.trace.calls.map (·.batch?) =
      (hub.kept changes).flatMap
          (fun change => List.replicate hub.emitters.length (some [change])) ++
        List.replicate hub.emitters.length none := by
  rw [served.calls, List.map_append, emitCalls, List.map_flatMap]
  simp only [List.map_map, ← List.map_const']
  rfl

end FanOut

/-- Every run serves every emitter, and failures are isolated: a run with as many
emitters, whose calls may come out otherwise, counts the same, its emitters receive the
same, and they are called for the same in the same order. -/
theorem fan_out_is_complete (hub : Hub) (changes : List Change) :
    FanOut hub changes (hub.run changes) ∧
      ∀ other : Hub, other.stages = hub.stages →
        other.emitters.length = hub.emitters.length →
          (other.run changes).runner.stats = (hub.run changes).runner.stats ∧
            (other.run changes).runner.emitters.map (·.received) =
              (hub.run changes).runner.emitters.map (·.received) ∧
            (other.run changes).runner.trace.calls.map (·.batch?) =
              (hub.run changes).runner.trace.calls.map (·.batch?) := by
  have served := fanOut_run hub changes
  refine ⟨served, fun other sameStages sameNumber => ?_⟩
  have otherServed := fanOut_run other changes
  have sameKept : other.kept changes = hub.kept changes := by rw [Hub.kept, Hub.kept, sameStages]
  refine ⟨?_, ?_, ?_⟩
  · rw [otherServed.stats_eq, served.stats_eq, sameKept]
  · rw [otherServed.map_received_eq, served.map_received_eq, sameKept, sameNumber]
  · rw [otherServed.map_batch?_calls_eq, served.map_batch?_calls_eq, sameKept, sameNumber]

/-! ## An emitter that fails at times -/

/-- An emitter that fails with the first batch, and at its shutdown if it was given a batch
at all, or never. -/
def sampleEmitter (fails : Bool) : Emitter where
  name := "sample"
  emit received _ :=
    { Emission.silent with
      result := if fails && received.isEmpty then .error (.connection "gone") else .ok () }
  health := ⟨true, [], []⟩
  shutdown received :=
    { Emission.silent with
      result := if fails && !received.isEmpty then .error (.send "gone") else .ok () }

/-- A hub with the admission filter and two emitters. -/
def sampleHub (fails : Bool) : Hub :=
  ⟨16, [.ofFilter ⟨true⟩], [sampleEmitter fails, sampleEmitter false]⟩

/-- Two changes that the filter keeps, and in between one that it drops. -/
def sampleChanges : List Change :=
  [⟨"Job", .created, .other .null, none⟩, ⟨"Job", .other "", .other .null, none⟩,
    ⟨"Service", .updated, .other .null, none⟩]

/-- The hub counts the same and its emitters are called for the same, whether or not the
first one fails: with the first change and the third, and then to be shut down.  The failure
of the first one at its shutdown is the result. -/
theorem fan_out_is_complete_sampleHub :
    (sampleHub true).stages = (sampleHub false).stages ∧
      (sampleHub true).emitters.length = (sampleHub false).emitters.length ∧
      FanOut (sampleHub false) sampleChanges ((sampleHub false).run sampleChanges) ∧
      ((sampleHub true).run sampleChanges).runner.stats =
        ((sampleHub false).run sampleChanges).runner.stats ∧
      ((sampleHub true).run sampleChanges).runner.emitters.map (·.received) =
        ((sampleHub false).run sampleChanges).runner.emitters.map (·.received) ∧
      ((sampleHub true).run sampleChanges).runner.trace.calls.map (·.batch?) =
        [some [⟨"Job", .created, .other .null, none⟩], some [⟨"Job", .created, .other .null, none⟩],
          some [⟨"Service", .updated, .other .null, none⟩],
          some [⟨"Service", .updated, .other .null, none⟩], none, none] ∧
      ((sampleHub true).run sampleChanges).result = .error (.send "gone") := by
  obtain ⟨served, isolated⟩ := fan_out_is_complete (sampleHub false) sampleChanges
  obtain ⟨sameStats, sameReceived, sameCalls⟩ := isolated (sampleHub true) rfl rfl
  obtain ⟨failing, -⟩ := fan_out_is_complete (sampleHub true) sampleChanges
  have last : ((sampleHub true).run sampleChanges).result = .error (.send "gone") :=
    (failing.fails _).mpr ⟨[], sampleEmitter true, [sampleEmitter false], rfl, rfl,
      (never_cons_iff ..).mpr ⟨nofun, never_nil _⟩⟩
  exact ⟨rfl, rfl, served, sameStats, sameReceived, sameCalls.trans (by rw [served.calls]; rfl),
    last⟩

end ChangeRelay.Relay
