import ChangeRelay.Proofs.Metrics.Counts
import ChangeRelay.Proofs.Relay.FanOut

/-!
# The metrics agree with what happened

A change is counted under the labels that it has when it enters the hub, and once more,
under the same kind, as forwarded or as dropped, whatever the stages make of it.  So the
observed changes of a kind are those that were forwarded and those that were dropped.

Nothing at a hub reads what was measured.  So a run goes the same way without metrics.
-/

namespace ChangeRelay.Relay

open Metrics (Counts Counter Measure Registry Tally)

/-! ## What is booked for a change -/

/-- The labels under which a change is observed. -/
def labels (change : Change) : List String :=
  [change.kind, change.reason.label]

/-- The tuples of labels that a trace leaves behind for a counter, in their order. -/
def Trace.counted (tally : Tally) (trace : Trace) : List (List String) :=
  Metrics.counted tally trace.measures

namespace Trace

variable {tally : Tally}

@[simp]
theorem counted_addLog (entries : List Log.Entry) (trace : Trace) :
    (trace.addLog entries).counted tally = trace.counted tally :=
  rfl

@[simp]
theorem counted_addMeasure (measure : Measure) (trace : Trace) :
    (trace.addMeasure measure).counted tally =
      trace.counted tally ++ (measure.labels? tally).toList := by
  rw [counted, counted, addMeasure, Metrics.counted, List.filterMap_append, Metrics.counted]
  cases found : measure.labels? tally <;> simp [found]

/-- Deliveries are counted only if they fail, and only in one counter. -/
theorem counted_noteEmission (ofChanges : tally ≠ .emitFailures) (emitter : Emitter)
    (change : Change) (emission : Emission) (trace : Trace) :
    (Runner.noteEmission emitter change emission trace).counted tally = trace.counted tally := by
  unfold Runner.noteEmission
  cases emission.result with
  | ok => rfl
  | error error =>
      have unnoted : (Measure.emitFailed emitter.name).labels? tally = none := by
        cases tally with
        | emitFailures => exact absurd rfl ofChanges
        | observed | forwarded | dropped => rfl
      simp only [counted_addLog, counted_addMeasure, unnoted, Option.toList_none, List.append_nil]
      rfl

theorem counted_fanOut (ofChanges : tally ≠ .emitFailures) (change : Change)
    (emitters : List EmitterState) (trace : Trace) :
    (Runner.fanOut change emitters trace).2.counted tally = trace.counted tally := by
  induction emitters generalizing trace with
  | nil => rfl
  | cons state rest ih =>
      rw [Runner.fanOut]
      exact (ih _).trans (counted_noteEmission ofChanges _ _ _ _)

end Trace

/-! ## The books of a runner -/

/-- What was counted agrees with the changes that were taken and with the statistics. -/
structure Booked (changes : List Change) (runner : Runner) : Prop where
  /-- Changes are counted with the labels that they had when they were taken. -/
  observed : runner.trace.counted .observed = changes.map labels
  /-- Every change is forwarded or dropped under the kind with which it was taken. -/
  balanced : ∀ kind, (changes.map Change.kind).count kind =
    (runner.trace.counted .forwarded).count [kind] + (runner.trace.counted .dropped).count [kind]
  taken : runner.stats.observed = changes.length
  forwarded : runner.stats.forwarded = (runner.trace.counted .forwarded).length
  dropped : runner.stats.dropped = (runner.trace.counted .dropped).length

namespace Booked

variable {changes : List Change} {runner : Runner}

theorem start (hub : Hub) : Booked [] hub.start where
  observed := rfl
  balanced _ := rfl
  taken := rfl
  forwarded := rfl
  dropped := rfl

/-- The stages only decide in which of two counters a change goes. -/
theorem process (booked : Booked changes runner) (change : Change) :
    Booked (changes ++ [change]) (runner.process change) := by
  have balanced := booked.balanced
  cases kept : (runner.chain.process change).2.kept with
  | none =>
      simp only [Runner.process, kept]
      exact {
        observed := by simp [booked.observed, Measure.labels?, labels]
        balanced := fun kind => by
          simp [balanced, Measure.labels?, List.count_singleton]
          omega
        taken := by simp [booked.taken]
        forwarded := by simp [booked.forwarded, Measure.labels?]
        dropped := by simp [booked.dropped, Measure.labels?] }
  | some outcome =>
      simp only [Runner.process, kept]
      exact {
        observed := by
          simp [Trace.counted_fanOut, booked.observed, Measure.labels?, labels]
        balanced := fun kind => by
          simp [Trace.counted_fanOut, balanced, Measure.labels?, List.count_singleton]
          omega
        taken := by simp [booked.taken]
        forwarded := by simp [Trace.counted_fanOut, booked.forwarded, Measure.labels?]
        dropped := by simp [Trace.counted_fanOut, booked.dropped, Measure.labels?] }

theorem processAll (hub : Hub) (changes : List Change) :
    Booked changes (hub.start.processAll changes) := by
  induction changes using List.reverseRecOn with
  | nil => exact .start hub
  | append_singleton changes change ih =>
      rw [Runner.processAll_concat]
      exact ih.process change

end Booked

/-! ## Conservation -/

/-- Exact counts agree with the changes that were taken and with the statistics. -/
structure Conserved (changes : List Change) (stats : Stats) (counts : Counts) : Prop where
  /-- Changes are observed under the kind and the reason that they had when they were taken. -/
  observed : ∀ kind reason, counts .observed [kind, reason] =
    changes.countP fun change => change.kind = kind ∧ change.reason.label = reason
  /-- Over all reasons, the changes of a kind are those that were forwarded and dropped. -/
  balanced : ∀ kind, ∑ᶠ reason, counts .observed [kind, reason] =
    counts .forwarded [kind] + counts .dropped [kind]
  /-- All but finitely many counters are zero, so that they have a sum. -/
  finite : ∀ tally, (Function.support (counts tally)).Finite
  total_observed : ∑ᶠ tuple, counts .observed tuple = stats.observed
  total_forwarded : ∑ᶠ tuple, counts .forwarded tuple = stats.forwarded
  total_dropped : ∑ᶠ tuple, counts .dropped tuple = stats.dropped

theorem count_map_labels (changes : List Change) (kind reason : String) :
    (changes.map labels).count [kind, reason] =
      ((changes.filter (·.kind = kind)).map (·.reason.label)).count reason := by
  induction changes with
  | nil => rfl
  | cons change changes ih =>
      by_cases same : change.kind = kind
      · simp [labels, same, ih, List.count_cons]
      · simp [labels, same, ih]

theorem finsum_count_map_labels (changes : List Change) (kind : String) :
    ∑ᶠ reason, (changes.map labels).count [kind, reason] =
      (changes.map Change.kind).count kind := by
  simp only [count_map_labels, Metrics.finsum_count, List.length_map]
  rw [List.count, List.countP_map, List.countP_eq_length_filter]
  rfl

theorem Booked.conserved {changes : List Change} {runner : Runner}
    (booked : Booked changes runner) :
    Conserved changes runner.stats (Counts.zero.recordAll runner.trace.measures) := by
  have counts : ∀ tally tuple, Counts.zero.recordAll runner.trace.measures tally tuple =
      (runner.trace.counted tally).count tuple := by
    intro tally tuple
    rw [Counts.recordAll_apply, Counts.zero, Nat.zero_add, Trace.counted]
  constructor
  · intro kind reason
    rw [counts, booked.observed, List.count, List.countP_map]
    congr 1
    funext change
    rw [Bool.eq_iff_iff]
    simp [labels]
  · intro kind
    simp only [counts, booked.observed, finsum_count_map_labels]
    exact booked.balanced kind
  · intro tally
    rw [funext (counts tally)]
    exact (List.finite_toSet _).subset (Metrics.support_count_subset _)
  · simp only [counts, Metrics.finsum_count, booked.observed, List.length_map]
    exact booked.taken.symm
  · simp only [counts, Metrics.finsum_count]
    exact booked.forwarded.symm
  · simp only [counts, Metrics.finsum_count]
    exact booked.dropped.symm

/-! ## Labels that the registry tells apart -/

/-- No two of these changes have labels that differ and yet read the same. -/
def LabelsApart (changes : List Change) : Prop :=
  Counter.Apart (changes.map labels)

/-- The three reasons of a watch have labels of the same length. -/
theorem labelsApart_of_watched {changes : List Change}
    (watched : ∀ change ∈ changes, ∀ text, change.reason ≠ .other text) : LabelsApart changes := by
  have sameLength : ∀ change ∈ changes, change.reason.label.toList.length = 7 := by
    intro change member
    cases reason : change.reason with
    | created | updated | deleted => rfl
    | other text => exact absurd reason (watched change member text)
  intro first firstMember second secondMember same
  rcases List.mem_map.mp firstMember with ⟨firstChange, firstChangeMember, rfl⟩
  rcases List.mem_map.mp secondMember with ⟨secondChange, secondChangeMember, rfl⟩
  have sameText : firstChange.kind.toList ++ firstChange.reason.label.toList =
      secondChange.kind.toList ++ secondChange.reason.label.toList := by
    simpa [labels] using congrArg String.toList same
  rcases List.append_inj' sameText (by rw [sameLength _ firstChangeMember,
    sameLength _ secondChangeMember]) with ⟨sameKind, sameReason⟩
  rw [labels, labels, String.toList_inj.mp sameKind, String.toList_inj.mp sameReason]

/-! ## Runs with and without metrics -/

/-- A trace whose measures were taken away. -/
def Trace.unmeasured (trace : Trace) : Trace :=
  { trace with measures := [] }

/-- A trace that is preceded by other measures. -/
def Trace.after (earlier : List Measure) (trace : Trace) : Trace :=
  { trace with measures := earlier ++ trace.measures }

namespace Trace

variable (earlier : List Measure) (trace : Trace)

@[simp]
theorem addLog_after (entries : List Log.Entry) :
    (trace.after earlier).addLog entries = (trace.addLog entries).after earlier :=
  rfl

@[simp]
theorem addMeasure_after (measure : Measure) :
    (trace.after earlier).addMeasure measure = (trace.addMeasure measure).after earlier := by
  simp [after, addMeasure]

theorem noteEmission_after (emitter : Emitter) (change : Change) (emission : Emission) :
    Runner.noteEmission emitter change emission (trace.after earlier) =
      (Runner.noteEmission emitter change emission trace).after earlier := by
  unfold Runner.noteEmission
  cases emission.result with
  | ok => rfl
  | error error =>
      rw [← addLog_after, ← addMeasure_after]
      rfl

theorem fanOut_after (change : Change) (emitters : List EmitterState) :
    Runner.fanOut change emitters (trace.after earlier) =
      ((Runner.fanOut change emitters trace).1,
        (Runner.fanOut change emitters trace).2.after earlier) := by
  induction emitters generalizing trace with
  | nil => rfl
  | cons state rest ih => simp only [Runner.fanOut, noteEmission_after, ih]

theorem noteShutdown_unmeasured (emitter : Emitter) (emission : Emission) :
    Runner.noteShutdown emitter emission trace.unmeasured =
      (Runner.noteShutdown emitter emission trace).unmeasured := by
  unfold Runner.noteShutdown
  cases emission.result <;> rfl

theorem shutDownAll_unmeasured (emitters : List EmitterState) :
    Runner.shutDownAll emitters trace.unmeasured =
      ((Runner.shutDownAll emitters trace).1,
        (Runner.shutDownAll emitters trace).2.unmeasured) := by
  induction emitters generalizing trace with
  | nil => rfl
  | cons state rest ih => simp only [Runner.shutDownAll, noteShutdown_unmeasured, ih]

end Trace

namespace Runner

/-- A runner with a trace that is preceded by other measures. -/
def after (earlier : List Measure) (runner : Runner) : Runner :=
  { runner with trace := runner.trace.after earlier }

/-- A runner whose measures were taken away. -/
def unmeasured (runner : Runner) : Runner :=
  { runner with trace := runner.trace.unmeasured }

theorem after_unmeasured (runner : Runner) :
    runner.unmeasured.after runner.trace.measures = runner := by
  simp [after, unmeasured, Trace.after, Trace.unmeasured]

/-- What was measured before makes no difference for a change. -/
theorem process_after (earlier : List Measure) (runner : Runner) (change : Change) :
    (runner.after earlier).process change = (runner.process change).after earlier := by
  cases kept : (runner.chain.process change).2.kept with
  | none => simp [process, after, kept]
  | some outcome => simp [process, after, kept, Trace.fanOut_after]

end Runner

/-- A runner at work, and metrics unless they were never set up. -/
structure Metered (μ : Type) where
  runner : Runner
  metrics : Option μ

namespace Metered

variable {μ : Type} (record : μ → Measure → μ)

/-- Take one change.  What is measured meanwhile goes into the metrics, if there are any. -/
def process (metered : Metered μ) (change : Change) : Metered μ :=
  let next := metered.runner.process change
  ⟨next.unmeasured, metered.metrics.map fun metrics => next.trace.measures.foldl record metrics⟩

/-- Take some changes, one after another. -/
def processAll (metered : Metered μ) (changes : List Change) : Metered μ :=
  changes.foldl (process record) metered

theorem processAll_concat (metered : Metered μ) (changes : List Change) (change : Change) :
    processAll record metered (changes ++ [change]) =
      process record (processAll record metered changes) change := by
  simp [processAll]

/-- A runner takes the same course with metrics and without, and the metrics have
recorded what the runner measured. -/
theorem processAll_start (hub : Hub) (metrics : Option μ) (changes : List Change) :
    processAll record ⟨hub.start, metrics⟩ changes =
      ⟨(hub.start.processAll changes).unmeasured, metrics.map fun metrics =>
        (hub.start.processAll changes).trace.measures.foldl record metrics⟩ := by
  induction changes using List.reverseRecOn with
  | nil => cases metrics <;> rfl
  | append_singleton changes change ih =>
      -- The measures before this change are set apart from those that it leaves behind.
      have split := Runner.process_after (hub.start.processAll changes).trace.measures
        (hub.start.processAll changes).unmeasured change
      rw [Runner.after_unmeasured] at split
      rw [processAll_concat, ih, Runner.processAll_concat, split, process]
      cases metrics with
      | none => rfl
      | some metrics => 
          simp [Runner.after, Trace.after, Runner.unmeasured, Trace.unmeasured, List.foldl_append]

end Metered

/-- A hub at work that has taken some changes, and its metrics. -/
def Hub.metered {μ : Type} (hub : Hub) (record : μ → Measure → μ) (metrics : Option μ)
    (changes : List Change) : Metered μ :=
  Metered.processAll record ⟨hub.start, metrics⟩ changes

/-- A report without what was measured. -/
def Report.unmeasured (report : Report) : Report :=
  { report with runner := report.runner.unmeasured }

/-- A runner comes to the same end whatever was measured. -/
theorem Runner.finish_unmeasured (runner : Runner) :
    runner.unmeasured.finish = runner.finish.unmeasured := by
  simp only [finish, unmeasured, Trace.shutDownAll_unmeasured]
  rfl

/-- After any changes, and so after each change of a longer run, exact counts agree with the
changes and with the statistics, whatever the stages and the emitters do.  The registry shows
these counts; only the counter of observed changes does not if the labels of two changes differ
and yet read the same.  The report is the same for all ways of recording, and also without
metrics. -/
theorem metrics_conserve_changes (hub : Hub) (changes : List Change) :
    (∃ counts registry,
      (hub.metered Counts.record (some .zero) changes).metrics = some counts ∧
      (hub.metered Registry.record (some .zero) changes).metrics = some registry ∧
      Conserved changes (hub.run changes).runner.stats counts ∧
      ∀ tally, (tally = .observed → LabelsApart changes) →
        registry.counts tally = counts tally) ∧
      ∀ (μ : Type) (record : μ → Measure → μ) (metrics : Option μ),
        (hub.metered record metrics changes).runner.finish = (hub.run changes).unmeasured := by
  have booked := Booked.processAll hub changes
  simp only [Hub.metered, Metered.processAll_start]
  constructor
  · refine ⟨_, _, rfl, rfl, booked.conserved, ?_⟩
    intro tally apart
    apply Registry.counts_recordAll
    by_cases observed : tally = .observed
    · subst observed
      rw [← Trace.counted, booked.observed]
      exact apart rfl
    · exact Registry.apart_counted observed _
  · intro μ record metrics
    exact Runner.finish_unmeasured _

/-- A hub with a stage that drops deletions and gives every other change another kind and
reason, and with an emitter that fails. -/
def renamingHub : Hub where
  capacity := 16
  stages := [{
    name := "renaming"
    judge := fun _ change =>
      ⟨if change.reason = .deleted then none
        else some { change with kind := "Renamed", reason := .other "Seen" }, []⟩ }]
  emitters := [sampleEmitter true]

/-- A Pod that comes and goes, and a Job that changes. -/
def watchedChanges : List Change :=
  [⟨"Pod", .created, .other .null, none⟩, ⟨"Job", .updated, .other .null, none⟩,
    ⟨"Pod", .deleted, .other .null, none⟩]

/-- The metrics know nothing of the other kind, and the report nothing of the metrics. -/
theorem metrics_conserve_changes_renamingHub :
    ∃ registry, (renamingHub.metered Registry.record (some .zero) watchedChanges).metrics =
        some registry ∧
      Conserved watchedChanges ⟨3, 2, 1⟩ registry.counts ∧
      registry.counts .observed ["Pod", "Created"] = 1 ∧
      registry.counts .observed ["Renamed", "Seen"] = 0 ∧
      (renamingHub.metered Registry.record none watchedChanges).runner.finish =
        (renamingHub.run watchedChanges).unmeasured := by
  rcases metrics_conserve_changes renamingHub watchedChanges with
    ⟨⟨counts, registry, -, recorded, conserved, shown⟩, same⟩
  have apart : LabelsApart watchedChanges := by
    apply labelsApart_of_watched
    simp [watchedChanges]
  obtain rfl : registry.counts = counts := by
    funext tally
    exact shown tally fun _ => apart
  refine ⟨registry, recorded, conserved, ?_, ?_, same Registry Registry.record none⟩
  · rw [conserved.observed]
    decide
  · rw [conserved.observed]
    decide

end ChangeRelay.Relay
