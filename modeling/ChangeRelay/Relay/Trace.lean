import ChangeRelay.Metrics.Registry
import ChangeRelay.Relay.Emitter

/-!
# Traces

What the parts of the relay leave behind on their way: entries in the log,
measures for the metrics, calls of emitters, printed text and sent requests.
-/

namespace ChangeRelay.Relay

/-- What was left behind so far. -/
structure Trace where
  log : List Log.Entry
  measures : List Metrics.Measure
  /-- All calls of emitters, in their order. -/
  calls : List EmitterCall
  printed : String
  requests : List Network.Http.Request

namespace Trace

/-- Nothing was left behind. -/
def empty : Trace :=
  ⟨[], [], [], "", []⟩

/-- A trace with some entries more. -/
def addLog (entries : List Log.Entry) (trace : Trace) : Trace :=
  { trace with log := trace.log ++ entries }

/-- A trace with one measure more. -/
def addMeasure (measure : Metrics.Measure) (trace : Trace) : Trace :=
  { trace with measures := trace.measures ++ [measure] }

/-- A trace with one call more, and with what the call came to but for its result. -/
def addCall (call : EmitterCall) (emission : Emission) (trace : Trace) : Trace where
  log := trace.log ++ emission.log
  measures := trace.measures
  calls := trace.calls ++ [call]
  printed := trace.printed ++ emission.printed
  requests := trace.requests ++ emission.requests

/-- Metrics after the measures of a trace. -/
def updateMetrics (trace : Trace) (registry : Metrics.Registry) : Metrics.Registry :=
  registry.recordAll trace.measures

end Trace

end ChangeRelay.Relay
