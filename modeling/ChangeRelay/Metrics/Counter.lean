/-!
# Counters

A counter counts occurrences by their label values.  A sample is found by the
label values written one after the other, so two tuples that read the same in
this way are counted together, under the labels of the one that came first.
-/

namespace ChangeRelay.Metrics

/-- One count, and the label values it is shown with. -/
structure Sample where
  labels : List String
  count : Nat
deriving DecidableEq, Repr

/-- The text that a sample is found by. -/
def Sample.key (sample : Sample) : String :=
  String.join sample.labels

/-- The samples of a counter, in the order of their first occurrence. -/
structure Counter where
  samples : List Sample
deriving DecidableEq, Repr

namespace Counter

/-- The counter that has counted nothing. -/
def zero : Counter :=
  ⟨[]⟩

/-- Samples with one more occurrence of some labels. -/
def bump (labels : List String) : List Sample → List Sample
  | [] => [⟨labels, 1⟩]
  | sample :: rest =>
      if sample.key = String.join labels then { sample with count := sample.count + 1 } :: rest
      else sample :: bump labels rest

/-- A counter with one more occurrence of some labels. -/
def increment (labels : List String) (counter : Counter) : Counter :=
  ⟨bump labels counter.samples⟩

/-- How often some labels were counted. -/
def count (labels : List String) (counter : Counter) : Nat :=
  match counter.samples.find? fun sample => sample.key = String.join labels with
  | some sample => sample.count
  | none => 0

/-- How often anything was counted. -/
def total (counter : Counter) : Nat :=
  counter.samples.foldr (fun sample total => sample.count + total) 0

@[simp]
theorem count_zero (labels : List String) : zero.count labels = 0 :=
  rfl

@[simp]
theorem count_increment (counted labels : List String) (counter : Counter) :
    (counter.increment counted).count labels =
      counter.count labels + if String.join counted = String.join labels then 1 else 0 := by
  obtain ⟨samples⟩ := counter
  unfold count increment
  induction samples with
  | nil =>
      by_cases same : String.join counted = String.join labels <;>
        simp [bump, Sample.key, same]
  | cons sample rest ih =>
      by_cases here : sample.key = String.join counted
      · by_cases same : String.join counted = String.join labels <;>
          simp_all [bump, Sample.key]
      · by_cases wanted : sample.key = String.join labels
        · have different : String.join counted ≠ String.join labels := fun same =>
            here (wanted.trans same.symm)
          simp_all [bump]
        · simp_all [bump]

@[simp]
theorem total_increment (labels : List String) (counter : Counter) :
    (counter.increment labels).total = counter.total + 1 := by
  obtain ⟨samples⟩ := counter
  unfold total increment
  induction samples with
  | nil => rfl
  | cons sample rest ih =>
      by_cases here : sample.key = String.join labels
      · simp [bump, here]
        omega
      · simp_all [bump]
        omega

end Counter

end ChangeRelay.Metrics
