import ChangeRelay.Metrics.Registry

/-!
# Exposition of metrics

The text in which metrics are published.  Each metric is a family of sample
lines under two lines that describe it.  Families come in the order of their
names, samples in the order of their label values, and a family without
samples is left out.
-/

namespace ChangeRelay.Metrics

/-- What kind of metric a family is. -/
inductive FamilyType where
  | counter
  | gauge
deriving DecidableEq, Repr

/-- The name of a kind of metric. -/
def FamilyType.name : FamilyType → String
  | counter => "counter"
  | gauge => "gauge"

/-- One sample of a family: label values and a value. -/
structure Reading where
  labels : List String
  value : Int
deriving DecidableEq, Repr

/-- A metric as it is published. -/
structure Family where
  name : String
  help : String
  type : FamilyType
  labelNames : List String
  readings : List Reading
deriving DecidableEq, Repr

/-! ## Sample lines -/

/-- A character of a label value as it is written between quotes. -/
def escapeChar : Char → List Char
  | '\\' => ['\\', '\\']
  | '"' => ['\\', '"']
  | '\n' => ['\\', 'n']
  | c => [c]

/-- A label value as it is written between quotes. -/
def escape (value : String) : String :=
  String.ofList (value.toList.flatMap escapeChar)

/-- One label with its value. -/
def labelText (name value : String) : String :=
  name ++ "=\"" ++ escape value ++ "\""

/-- The labels of a sample, in braces unless there are none. -/
def labelsText (names values : List String) : String :=
  if names.isEmpty then ""
  else "\x7b" ++ String.intercalate "," (List.zipWith labelText names values) ++ "\x7d"

/-- The line of one sample. -/
def Family.sampleLine (family : Family) (reading : Reading) : String :=
  family.name ++ labelsText family.labelNames reading.labels ++ " " ++ toString reading.value

/-! ## Families -/

/-- Whether one tuple of label values comes before another, or is the same. -/
def labelsLe : List String → List String → Bool
  | [], _ => true
  | _ :: _, [] => false
  | left :: lefts, right :: rights =>
      if left = right then labelsLe lefts rights else left < right

/-- The readings of a family in the order in which they are written. -/
def Family.sorted (family : Family) : List Reading :=
  family.readings.mergeSort fun left right => labelsLe left.labels right.labels

/-- The lines of the samples of a family. -/
def Family.sampleLines (family : Family) : List String :=
  family.sorted.map family.sampleLine

/-- The lines of a family. -/
def Family.lines (family : Family) : List String :=
  if family.readings.isEmpty then []
  else
    ["# HELP " ++ family.name ++ " " ++ family.help,
      "# TYPE " ++ family.name ++ " " ++ family.type.name]
      ++ family.sampleLines

namespace Registry

/-- The readings of a counter. -/
def counterReadings (counter : Counter) : List Reading :=
  counter.samples.map fun sample => ⟨sample.labels, sample.count⟩

/-- The metrics as families, in the order of their names. -/
def families (registry : Registry) : List Family :=
  [ ⟨"kubewatch_active_watches", "Number of running watch streams", .gauge, [],
      [⟨[], registry.activeWatches⟩]⟩,
    ⟨"kubewatch_emit_failures_total", "Total failed emit calls", .counter, ["emitter"],
      counterReadings registry.emitFailures⟩,
    ⟨"kubewatch_events_dropped_total", "Total change events dropped by the filter", .counter,
      ["kind"], counterReadings registry.dropped⟩,
    ⟨"kubewatch_events_forwarded_total", "Total change events forwarded to emitters", .counter,
      ["kind"], counterReadings registry.forwarded⟩,
    ⟨"kubewatch_events_observed_total", "Total change events received from watches", .counter,
      ["kind", "reason"], counterReadings registry.observed⟩ ]

/-- The lines of all samples. -/
def sampleLines (registry : Registry) : List String :=
  registry.families.flatMap Family.sampleLines

/-- The published text. -/
def exposition (registry : Registry) : String :=
  String.join ((registry.families.flatMap Family.lines).map (· ++ "\n"))

end Registry

end ChangeRelay.Metrics
