import ChangeRelay.Relay.Hub

/-!
# Traffic at a hub

Any number of senders hand changes to a hub while its runner takes them out.
What happens at a hub is a sequence of steps in any order: calls begin and come
to an end, senders are cloned and dropped, and the runner takes a change or
ends.  A run is a history of such steps together with the hub that it leads to.

Of the channel only this is assumed: it takes a change only while it has room and
its receiver is there.  It may have room and yet be full for a call that does not
wait, since room may be kept for those that do.

What the runner does with a change, from taking it until it asks for the next one,
touches nothing that a sender can see.  So it is one step.
-/

namespace ChangeRelay.Relay

/-- A call that hands over a change. -/
structure Call where
  /-- Calls are numbered in the order in which they begin. -/
  number : Nat
  sender : Nat
  change : Change
  /-- Whether the call waits while the channel is full. -/
  waits : Bool
deriving DecidableEq

namespace Call

/-- What comes of a call now, and the channel after it. -/
def put (call : Call) (channel : Channel) : Sending × Channel :=
  if call.waits then channel.send call.change else channel.trySend call.change

/-- A call is accepted exactly when the channel takes its change. -/
theorem put_eq_accepted_iff (call : Call) (channel after : Channel) :
    call.put channel = (.accepted, after) ↔ channel.offer call.change = .ok after := by
  unfold put Channel.send Channel.trySend
  cases call.waits with
  | true => rcases channel.offer call.change with (_ | _) | _ <;> simp
  | false => rcases channel.offer call.change with _ | _ <;> simp

end Call

/-- Where the runner of a hub is in its course. -/
inductive Phase where
  | running
  | ended (report : Report)
  /-- The runner went away before its end. -/
  | gone

/-- A hub at work, and those who send to it. -/
structure Traffic where
  pipeline : Pipeline
  phase : Phase
  /-- The senders that are there. -/
  senders : List Nat
  /-- How many senders there were so far. -/
  issued : Nat
  /-- The calls that have not come to an end. -/
  pending : List Call
  /-- How many calls have begun so far. -/
  begun : Nat

/-- The traffic when a hub begins to work: one sender is there. -/
def Traffic.start (hub : Hub) (channel : Channel) : Traffic :=
  ⟨⟨channel, hub.start⟩, .running, [0], 1, [], 0⟩

/-- What can happen at a hub. -/
inductive Happening where
  | begun (call : Call)
  | accepted (call : Call)
  | refused (call : Call) (refusal : Refusal)
  /-- A call is given up by the one who waits for it. -/
  | cancelled (call : Call)
  | cloned (sender : Nat)
  | dropped (sender : Nat)
  /-- The runner takes the oldest change and processes it. -/
  | processed
  /-- The runner finds that nothing will come any more. -/
  | ended
  /-- The runner goes away before its end. -/
  | abandoned

namespace Happening

/-- The call that is accepted. -/
def accepted? : Happening → Option Call
  | accepted call => some call
  | _ => none

/-- The call that is refused or cancelled. -/
def failed? : Happening → Option Call
  | refused call _ | cancelled call => some call
  | _ => none

end Happening

/-- The calls that were accepted, in the order of their acceptance. -/
def acceptedCalls (history : List Happening) : List Call :=
  history.filterMap (·.accepted?)

/-- The calls that were refused or cancelled. -/
def failedCalls (history : List Happening) : List Call :=
  history.filterMap (·.failed?)

namespace Traffic

/-- One step at a hub.  A sender is only dropped when none of its calls is
pending: if its task is aborted, the call that the task waits for is cancelled
first. -/
inductive Step : Traffic → Happening → Traffic → Prop where
  | begun {traffic : Traffic} {call : Call} (present : call.sender ∈ traffic.senders)
      (numbered : call.number = traffic.begun) :
      Step traffic (.begun call)
        { traffic with pending := traffic.pending ++ [call], begun := traffic.begun + 1 }
  | accepted {traffic : Traffic} {call : Call} {channel : Channel}
      (pending : call ∈ traffic.pending)
      (taken : call.put traffic.pipeline.channel = (.accepted, channel)) :
      Step traffic (.accepted call)
        { traffic with
          pipeline := { traffic.pipeline with channel }
          pending := traffic.pending.erase call }
  | full {traffic : Traffic} {call : Call} (pending : call ∈ traffic.pending)
      (impatient : call.waits = false) :
      Step traffic (.refused call .full) { traffic with pending := traffic.pending.erase call }
  | closed {traffic : Traffic} {call : Call} (pending : call ∈ traffic.pending)
      (closed : traffic.pipeline.channel.isOpen = false) :
      Step traffic (.refused call .closed) { traffic with pending := traffic.pending.erase call }
  | cancelled {traffic : Traffic} {call : Call} (pending : call ∈ traffic.pending)
      (patient : call.waits = true) :
      Step traffic (.cancelled call) { traffic with pending := traffic.pending.erase call }
  | cloned {traffic : Traffic} {sender : Nat} (present : sender ∈ traffic.senders) :
      Step traffic (.cloned sender)
        { traffic with
          pipeline := { traffic.pipeline with channel := traffic.pipeline.channel.addSender }
          senders := traffic.issued :: traffic.senders
          issued := traffic.issued + 1 }
  | dropped {traffic : Traffic} {sender : Nat} (present : sender ∈ traffic.senders)
      (idle : ∀ call ∈ traffic.pending, call.sender ≠ sender) :
      Step traffic (.dropped sender)
        { traffic with
          pipeline := { traffic.pipeline with channel := traffic.pipeline.channel.dropSender }
          senders := traffic.senders.erase sender }
  | processed {traffic : Traffic} {change : Change} {rest : Channel}
      (running : traffic.phase = .running)
      (received : traffic.pipeline.channel.receive = .received change rest) :
      Step traffic .processed { traffic with pipeline := traffic.pipeline.advance }
  | ended {traffic : Traffic} (running : traffic.phase = .running)
      (nothing : traffic.pipeline.channel.receive = .ended) :
      Step traffic .ended
        { traffic with
          pipeline := { traffic.pipeline with channel := traffic.pipeline.channel.close }
          phase := .ended traffic.pipeline.runner.finish }
  | abandoned {traffic : Traffic} (running : traffic.phase = .running) :
      Step traffic .abandoned
        { traffic with
          pipeline := { traffic.pipeline with channel := traffic.pipeline.channel.close }
          phase := .gone }

/-- The traffic that a history leads to, at a hub that could be set up. -/
inductive Run (hub : Hub) : List Happening → Traffic → Prop where
  | start {channel : Channel} (opened : hub.openChannel? = some channel) :
      Run hub [] (.start hub channel)
  | step {history : List Happening} {traffic after : Traffic} {happening : Happening}
      (run : Run hub history traffic) (next : Step traffic happening after) :
      Run hub (history ++ [happening]) after

end Traffic

end ChangeRelay.Relay
