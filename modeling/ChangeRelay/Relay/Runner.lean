import ChangeRelay.Relay.Stage
import ChangeRelay.Relay.Trace

/-!
# The runner

The runner takes changes one by one, leads each through the chain of stages and
gives what is kept to every emitter.  An emitter that fails is logged and
counted, and stops nothing.  After the last change every emitter is shut down.
-/

namespace ChangeRelay.Relay

/-- How many changes were taken, and what became of them. -/
structure Stats where
  observed : Nat
  forwarded : Nat
  dropped : Nat
deriving DecidableEq, Repr

/-- A runner at work. -/
structure Runner where
  chain : Chain
  emitters : List EmitterState
  stats : Stats
  /-- The changes that were taken, the newest first. -/
  received : List Change
  trace : Trace

/-- An emitter that was shut down, by its name, and what came of it. -/
structure Shutdown where
  name : String
  result : Except PluginError Unit

/-- How a run ended. -/
structure Report where
  result : Except PluginError Stats
  /-- The emitters that were shut down, in their order. -/
  shutdowns : List Shutdown
  runner : Runner

namespace Runner

/-- Names as they are shown in the log. -/
def namesText (names : List String) : String :=
  "[" ++ String.intercalate ", " (names.map fun name => "\"" ++ name ++ "\"") ++ "]"

/-- What is logged when a run begins. -/
def openingLog (stages : List Stage) (emitters : List Emitter) : List Log.Entry :=
  Log.info "Hub started" [
      ("emitters", toString emitters.length),
      ("middleware", namesText (stages.map Stage.name))] ::
    if emitters.isEmpty then
      [Log.warn "No emitters registered - admitted events will be discarded" []]
    else []

/-- The runner of some stages and emitters, before the first change. -/
def start (stages : List Stage) (emitters : List Emitter) : Runner where
  chain := .ofStages stages
  emitters := emitters.map fun emitter => ⟨emitter, []⟩
  stats := ⟨0, 0, 0⟩
  received := []
  trace := Trace.empty.addLog (openingLog stages emitters)

/-! ## One change -/

/-- What is left behind when an emitter was given a change. -/
def noteEmission (emitter : Emitter) (change : Change) (emission : Emission) (trace : Trace) :
    Trace :=
  let after := trace.addCall (.emit emitter [change]) emission
  match emission.result with
  | .ok () =>
      after.addLog [Log.debug "Event forwarded" [
        ("emitter", emitter.name), ("kind", change.kind), ("reason", change.reason.label),
        ("name", change.name)]]
  | .error error =>
      (after.addMeasure (.emitFailed emitter.name)).addLog [Log.error "Failed to forward event" [
        ("emitter", emitter.name), ("error", error.message), ("kind", change.kind),
        ("name", change.name)]]

/-- Give a change to every emitter, in their order. -/
def fanOut (change : Change) : List EmitterState → Trace → List EmitterState × Trace
  | [], trace => ([], trace)
  | state :: rest, trace =>
      let (next, emission) := state.emit [change]
      let (others, last) :=
        fanOut change rest (noteEmission state.emitter change emission trace)
      (next :: others, last)

/-- Take one change. -/
def process (runner : Runner) (change : Change) : Runner :=
  let (chain, verdict) := runner.chain.process change
  let received := change :: runner.received
  let observed := runner.stats.observed + 1
  let trace :=
    (runner.trace.addMeasure (.observed change.kind change.reason.label)).addLog verdict.log
  match verdict.kept with
  | none =>
      { runner with
        chain, received
        stats := { runner.stats with observed, dropped := runner.stats.dropped + 1 }
        trace := trace.addMeasure (.dropped change.kind) }
  | some kept =>
      let (emitters, trace) :=
        fanOut kept runner.emitters (trace.addMeasure (.forwarded change.kind))
      { chain, emitters, received, trace
        stats := { runner.stats with observed, forwarded := runner.stats.forwarded + 1 } }

/-- Take some changes, one after another. -/
def processAll (runner : Runner) (changes : List Change) : Runner :=
  changes.foldl process runner

/-! ## The end of a run -/

/-- What is left behind when an emitter was shut down. -/
def noteShutdown (emitter : Emitter) (emission : Emission) (trace : Trace) : Trace :=
  let after := trace.addCall (.shutdown emitter) emission
  match emission.result with
  | .ok () => after
  | .error error =>
      after.addLog [Log.error "Emitter shutdown failed"
        [("emitter", emitter.name), ("error", error.message)]]

/-- Shut down every emitter, in their order. -/
def shutDownAll : List EmitterState → Trace → List Shutdown × Trace
  | [], trace => ([], trace)
  | state :: rest, trace =>
      let emission := state.shutDown
      let (others, last) := shutDownAll rest (noteShutdown state.emitter emission trace)
      (⟨state.emitter.name, emission.result⟩ :: others, last)

/-- The last error with which an emitter was shut down. -/
def shutdownError? (shutdowns : List Shutdown) : Option PluginError :=
  shutdowns.foldl (fun last shutdown =>
    match shutdown.result with
    | .ok () => last
    | .error error => some error) none

/-- What is logged at the very end. -/
def closingEntry (stats : Stats) : Log.Entry :=
  Log.info "Hub shutdown" [
    ("observed", toString stats.observed), ("forwarded", toString stats.forwarded),
    ("dropped", toString stats.dropped)]

/-- Shut down every emitter and end the run. -/
def finish (runner : Runner) : Report :=
  let (shutdowns, trace) := shutDownAll runner.emitters runner.trace
  { result :=
      match shutdownError? shutdowns with
      | some error => .error error
      | none => .ok runner.stats
    shutdowns
    runner := { runner with trace := trace.addLog [closingEntry runner.stats] } }

end Runner

end ChangeRelay.Relay
