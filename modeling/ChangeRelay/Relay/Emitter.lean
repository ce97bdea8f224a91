import ChangeRelay.Change
import ChangeRelay.Error
import ChangeRelay.Log.Entry
import ChangeRelay.Network.Http

/-!
# Emitters

An emitter delivers changes to a sink, until it is shut down.  What it does in a
call may depend on the batches that it was given before, and everything that it
leaves behind is part of the result.
-/

namespace ChangeRelay.Relay

/-- What a call of an emitter comes to. -/
structure Emission where
  result : Except PluginError Unit
  /-- The text that is printed. -/
  printed : String
  /-- The requests that are sent. -/
  requests : List Network.Http.Request
  log : List Log.Entry

/-- What looking after the health of a sink shows. -/
structure HealthCheck where
  healthy : Bool
  requests : List Network.Http.Request
  log : List Log.Entry
deriving DecidableEq

/-- An emitter. -/
structure Emitter where
  name : String
  /-- What is done with a batch after those given before, the newest first. -/
  emit : List (List Change) → List Change → Emission
  health : HealthCheck
  /-- What is done at the end, after some batches, the newest first. -/
  shutdown : List (List Change) → Emission

/-- The emission of a call that succeeds and leaves nothing behind. -/
def Emission.silent : Emission :=
  ⟨.ok (), "", [], []⟩

/-- Whether a result is a success. -/
def succeeded {ε α : Type} : Except ε α → Bool
  | .ok _ => true
  | .error _ => false

/-- An emitter at work, with the batches that it was given, the newest first. -/
structure EmitterState where
  emitter : Emitter
  received : List (List Change)

/-- The next batch for an emitter at work. -/
def EmitterState.emit (state : EmitterState) (batch : List Change) : EmitterState × Emission :=
  (⟨state.emitter, batch :: state.received⟩, state.emitter.emit state.received batch)

/-- The end of an emitter at work. -/
def EmitterState.shutDown (state : EmitterState) : Emission :=
  state.emitter.shutdown state.received

/-- A call of an emitter. -/
inductive EmitterCall where
  | emit (emitter : Emitter) (batch : List Change)
  | shutdown (emitter : Emitter)

namespace EmitterCall

/-- The emitter that is called. -/
def emitter : EmitterCall → Emitter
  | emit emitter _ | shutdown emitter => emitter

/-- The batch that an emitter is called with, if it is not shut down. -/
def batch? : EmitterCall → Option (List Change)
  | emit _ batch => some batch
  | shutdown _ => none

end EmitterCall

end ChangeRelay.Relay
