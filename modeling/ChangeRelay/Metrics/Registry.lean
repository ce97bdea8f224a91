import ChangeRelay.Metrics.Counter

/-!
# The metrics of the relay

Four counters follow the changes on their way through the relay, and a gauge
shows how many watches run.
-/

namespace ChangeRelay.Metrics

/-- Something that the metrics take note of. -/
inductive Measure where
  /-- A watch delivered a change. -/
  | observed (kind reason : String)
  /-- A change went to the emitters. -/
  | forwarded (kind : String)
  /-- A change was dropped on the way. -/
  | dropped (kind : String)
  /-- An emitter failed to take a change. -/
  | emitFailed (emitter : String)
  /-- A watch began to run. -/
  | watchStarted
  /-- A watch came to its end. -/
  | watchStopped
deriving DecidableEq, Repr

/-- The current values of all metrics. -/
structure Registry where
  observed : Counter
  forwarded : Counter
  dropped : Counter
  emitFailures : Counter
  activeWatches : Int
deriving DecidableEq, Repr

namespace Registry

/-- The metrics before anything was noted. -/
def zero : Registry :=
  ⟨.zero, .zero, .zero, .zero, 0⟩

/-- The metrics after one more measure. -/
def record (registry : Registry) : Measure → Registry
  | .observed kind reason =>
      { registry with observed := registry.observed.increment [kind, reason] }
  | .forwarded kind => { registry with forwarded := registry.forwarded.increment [kind] }
  | .dropped kind => { registry with dropped := registry.dropped.increment [kind] }
  | .emitFailed emitter =>
      { registry with emitFailures := registry.emitFailures.increment [emitter] }
  | .watchStarted => { registry with activeWatches := registry.activeWatches + 1 }
  | .watchStopped => { registry with activeWatches := registry.activeWatches - 1 }

/-- The metrics after some measures. -/
def recordAll (registry : Registry) (measures : List Measure) : Registry :=
  measures.foldl record registry

@[simp]
theorem recordAll_nil (registry : Registry) : registry.recordAll [] = registry :=
  rfl

theorem recordAll_cons (registry : Registry) (measure : Measure) (measures : List Measure) :
    registry.recordAll (measure :: measures) = (registry.record measure).recordAll measures :=
  rfl

@[simp]
theorem recordAll_append (registry : Registry) (first second : List Measure) :
    registry.recordAll (first ++ second) = (registry.recordAll first).recordAll second :=
  List.foldl_append

end Registry

end ChangeRelay.Metrics
