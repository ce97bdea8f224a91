import ChangeRelay.Metrics.Registry
import Mathlib.Algebra.BigOperators.Finprod

/-!
# Exact counts

Metrics with one exact counter for each tuple of labels, and what the counters of the
registry show in comparison.  These find a sample by its labels written one after the
other.  So each of them shows the exact counts as long as no two tuples that it counted
read the same in this way; single labels never do.
-/

namespace ChangeRelay.Metrics

/-- The counters of the registry. -/
inductive Tally where
  | observed
  | forwarded
  | dropped
  | emitFailures
deriving DecidableEq

/-- The labels under which a measure is counted, if the counter takes note of it. -/
def Measure.labels? : Tally → Measure → Option (List String)
  | .observed, observed kind reason => some [kind, reason]
  | .forwarded, forwarded kind => some [kind]
  | .dropped, dropped kind => some [kind]
  | .emitFailures, emitFailed emitter => some [emitter]
  | _, _ => none

/-- The tuples of labels that a counter counts among some measures, in their order. -/
def counted (tally : Tally) (measures : List Measure) : List (List String) :=
  measures.filterMap (Measure.labels? tally)

/-! ## One counter for each tuple -/

/-- The values of all counters, one for each tuple of labels. -/
abbrev Counts : Type :=
  Tally → List String → Nat

namespace Counts

/-- The counts before anything was noted. -/
def zero : Counts :=
  fun _ _ => 0

/-- The counts after one more measure. -/
def record (counts : Counts) (measure : Measure) : Counts :=
  fun tally labels => counts tally labels + if measure.labels? tally = some labels then 1 else 0

/-- The counts after some measures. -/
def recordAll (counts : Counts) (measures : List Measure) : Counts :=
  measures.foldl record counts

theorem recordAll_apply (counts : Counts) (measures : List Measure) (tally : Tally)
    (labels : List String) :
    counts.recordAll measures tally labels =
      counts tally labels + (counted tally measures).count labels := by
  induction measures generalizing counts with
  | nil => rfl
  | cons measure measures ih =>
      have recorded : counts.recordAll (measure :: measures) =
          (counts.record measure).recordAll measures := rfl
      rw [recorded, ih, record, counted, counted, List.filterMap_cons]
      cases found : measure.labels? tally with
      | none => simp
      | some other =>
          by_cases same : other = labels
          · simp [same]
            omega
          · simp [same]

end Counts

/-! ## Sums of counts -/

section

variable {α : Type} [beq : BEq α] [LawfulBEq α]

theorem support_count_subset (list : List α) :
    (Function.support fun item => list.count item) ⊆ {item | item ∈ list} := by
  intro item counted
  exact List.count_pos_iff.mp (Nat.pos_of_ne_zero counted)

/-- The counts of all items together are the length of a list. -/
theorem finsum_count (list : List α) : ∑ᶠ item, list.count item = list.length := by
  classical
  have support : (Function.support fun item => list.count item) ⊆ list.toFinset := by
    simpa using support_count_subset list
  rw [finsum_eq_sum_of_support_subset _ support]
  -- All lawful comparisons are the same, and the library counts with the classical one.
  cases lawful_beq_subsingleton beq instBEqOfDecidableEq
  exact List.sum_toFinset_count_eq_length list

end

/-! ## What a counter shows -/

namespace Counter

/-- What is shown under some labels. -/
def shown (labels : List String) (counter : Counter) : Nat :=
  ((counter.samples.filter (·.labels = labels)).map (·.count)).sum

/-- A counter after some tuples of labels were counted. -/
def incrementAll (counter : Counter) (tuples : List (List String)) : Counter :=
  tuples.foldl (fun counter labels => counter.increment labels) counter

/-- Tuples that differ do not read the same. -/
def Apart (tuples : List (List String)) : Prop :=
  ∀ first ∈ tuples, ∀ second ∈ tuples, String.join first = String.join second → first = second

theorem labels_bump {labels : List String} {samples : List Sample} {sample : Sample}
    (member : sample ∈ bump labels samples) :
    sample.labels = labels ∨ sample.labels ∈ samples.map (·.labels) := by
  induction samples with
  | nil =>
      rw [bump, List.mem_singleton] at member
      exact .inl (congrArg Sample.labels member)
  | cons first rest ih =>
      rw [bump] at member
      split at member
      · rcases List.mem_cons.mp member with rfl | later
        · exact .inr List.mem_cons_self
        · exact .inr (List.mem_cons_of_mem _ (List.mem_map_of_mem later))
      · rcases List.mem_cons.mp member with rfl | later
        · exact .inr List.mem_cons_self
        · rcases ih later with new | old
          · exact .inl new
          · exact .inr (List.mem_cons_of_mem _ old)

/-- If every sample that is found by some labels has these labels, one more of them is
shown, and as many as before of all others. -/
theorem shown_increment {labels : List String} {counter : Counter}
    (own : ∀ sample ∈ counter.samples, sample.key = String.join labels → sample.labels = labels)
    (other : List String) :
    (counter.increment labels).shown other =
      counter.shown other + if labels = other then 1 else 0 := by
  obtain ⟨samples⟩ := counter
  unfold shown increment
  dsimp only at own ⊢
  induction samples with
  | nil => by_cases same : labels = other <;> simp [bump, same]
  | cons first rest ih =>
      by_cases here : first.key = String.join labels
      · have ownLabels := own first List.mem_cons_self here
        by_cases same : labels = other
        · simp [bump, here, ownLabels, same]
          omega
        · simp [bump, here, ownLabels, same]
      · have later := ih fun sample member => own sample (List.mem_cons_of_mem _ member)
        by_cases same : first.labels = other
        · simp [bump, here, same, later, Nat.add_assoc]
        · simp [bump, here, same, later]

/-- Every sample has the labels of a tuple that was counted. -/
theorem labels_incrementAll {tuples : List (List String)} {sample : Sample}
    (member : sample ∈ (zero.incrementAll tuples).samples) : sample.labels ∈ tuples := by
  induction tuples using List.reverseRecOn generalizing sample with
  | nil => cases member
  | append_singleton tuples labels ih =>
      rw [incrementAll, List.foldl_append] at member
      rcases labels_bump member with new | old
      · simp [new]
      · rcases List.mem_map.mp old with ⟨earlier, earlierMember, same⟩
        rw [← same]
        exact List.mem_append_left _ (ih earlierMember)

/-- A counter shows how often each tuple was counted, if the tuples are apart. -/
theorem shown_incrementAll {tuples : List (List String)} (apart : Apart tuples)
    (labels : List String) : (zero.incrementAll tuples).shown labels = tuples.count labels := by
  induction tuples using List.reverseRecOn with
  | nil => rfl
  | append_singleton tuples last ih =>
      have apartBefore : Apart tuples := fun first firstMember second secondMember =>
        apart first (List.mem_append_left _ firstMember) second
          (List.mem_append_left _ secondMember)
      have own : ∀ sample ∈ (zero.incrementAll tuples).samples,
          sample.key = String.join last → sample.labels = last := by
        intro sample member
        exact apart _ (List.mem_append_left _ (labels_incrementAll member)) _ (by simp)
      have step := shown_increment own labels
      rw [ih apartBefore] at step
      rw [incrementAll, List.foldl_append, List.count_append, List.count_singleton]
      simpa [incrementAll] using step

end Counter

/-! ## What the registry shows -/

namespace Registry

/-- The counter of the registry that keeps a tally. -/
def counter (registry : Registry) : Tally → Counter
  | .observed => registry.observed
  | .forwarded => registry.forwarded
  | .dropped => registry.dropped
  | .emitFailures => registry.emitFailures

/-- What the counters of the registry show. -/
def counts (registry : Registry) : Counts :=
  fun tally labels => (registry.counter tally).shown labels

theorem counter_record (registry : Registry) (measure : Measure) (tally : Tally) :
    (registry.record measure).counter tally =
      (registry.counter tally).incrementAll (measure.labels? tally).toList := by
  cases tally <;> cases measure <;> rfl

theorem counter_recordAll (registry : Registry) (measures : List Measure) (tally : Tally) :
    (registry.recordAll measures).counter tally =
      (registry.counter tally).incrementAll (counted tally measures) := by
  induction measures generalizing registry with
  | nil => rfl
  | cons measure measures ih =>
      rw [recordAll_cons, ih, counter_record, counted, counted, List.filterMap_cons]
      cases measure.labels? tally <;> rfl

/-- Single labels are apart. -/
theorem apart_counted {tally : Tally} (single : tally ≠ .observed) (measures : List Measure) :
    Counter.Apart (counted tally measures) := by
  have isSingle : ∀ labels ∈ counted tally measures, ∃ label, labels = [label] := by
    intro labels member
    rcases List.mem_filterMap.mp member with ⟨measure, -, found⟩
    cases tally with
    | observed => exact absurd rfl single
    | forwarded | dropped | emitFailures =>
        cases measure <;> cases found
        exact ⟨_, rfl⟩
  intro first firstMember second secondMember same
  rcases isSingle first firstMember with ⟨firstLabel, rfl⟩
  rcases isSingle second secondMember with ⟨secondLabel, rfl⟩
  simpa using same

/-- A counter of the registry shows the exact counts, if the labels that it counts are
apart. -/
theorem counts_recordAll {tally : Tally} {measures : List Measure}
    (apart : Counter.Apart (counted tally measures)) :
    (zero.recordAll measures).counts tally = Counts.zero.recordAll measures tally := by
  funext labels
  have empty : zero.counter tally = .zero := by cases tally <;> rfl
  rw [counts, counter_recordAll, empty, Counter.shown_incrementAll apart,
    Counts.recordAll_apply, Counts.zero, Nat.zero_add]

end Registry

end ChangeRelay.Metrics
