import ChangeRelay.Relay.Channel
import ChangeRelay.Relay.Runner

/-!
# The hub

A hub is set up with a capacity, stages and emitters.  At work it is a channel
that takes the changes of all senders, and a runner that takes them out.
-/

namespace ChangeRelay.Relay

/-- The set-up of a hub. -/
structure Hub where
  capacity : Nat
  stages : List Stage
  emitters : List Emitter

namespace Hub

/-- The hub without stages and emitters. -/
def default : Hub :=
  ⟨1024, [], []⟩

/-- A hub with another capacity, which is at least one. -/
def withCapacity (capacity : Nat) (hub : Hub) : Hub :=
  { hub with capacity := max capacity 1 }

/-- A hub with one more stage after the others. -/
def addStage (stage : Stage) (hub : Hub) : Hub :=
  { hub with stages := hub.stages ++ [stage] }

/-- A hub with one more emitter after the others. -/
def addEmitter (emitter : Emitter) (hub : Hub) : Hub :=
  { hub with emitters := hub.emitters ++ [emitter] }

/-- The channel of a hub.  There is none if the capacity is out of range. -/
def openChannel? (hub : Hub) : Option Channel :=
  Channel.new? hub.capacity

/-- The runner of a hub when its run begins. -/
def start (hub : Hub) : Runner :=
  .start hub.stages hub.emitters

/-- The whole run of a hub over some changes. -/
def run (hub : Hub) (changes : List Change) : Report :=
  (hub.start.processAll changes).finish

end Hub

/-! ## A hub at work -/

/-- A hub at work. -/
structure Pipeline where
  channel : Channel
  runner : Runner

namespace Pipeline

/-- Let the runner take the oldest change; nothing happens if there is none. -/
def advance (pipeline : Pipeline) : Pipeline :=
  match pipeline.channel.receive with
  | .received change channel => ⟨channel, pipeline.runner.process change⟩
  | .waiting | .ended => pipeline

/-- Let the runner take all changes that wait. -/
def drain (pipeline : Pipeline) : Pipeline :=
  ⟨{ pipeline.channel with queue := [] }, pipeline.runner.processAll pipeline.channel.queue⟩

end Pipeline

end ChangeRelay.Relay
