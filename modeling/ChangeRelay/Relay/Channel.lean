import ChangeRelay.Change
import ChangeRelay.Error

/-!
# Channels

A channel is a bounded queue of changes between any number of senders and one
receiver.  It takes a change only while it holds fewer than its capacity and
the receiver is there, and it gives changes back in the order in which it took
them.
-/

namespace ChangeRelay.Relay

/-- Why a channel does not take a change. -/
inductive Refusal where
  | full
  | closed
deriving DecidableEq, Repr

namespace Refusal

/-- The refusal as it is shown. -/
def message : Refusal → String
  | full => "no available capacity"
  | closed => "channel closed"

/-- The refusal as the error of a sender. -/
def toPluginError (refusal : Refusal) : PluginError :=
  .send refusal.message

end Refusal

/-- A channel. -/
structure Channel where
  capacity : Nat
  /-- The changes that wait, the oldest first. -/
  queue : List Change
  senders : Nat
  /-- Whether the receiver is there. -/
  isOpen : Bool
deriving DecidableEq

/-- What the receiver of a channel gets. -/
inductive Reception where
  /-- The oldest change, and the channel without it. -/
  | received (change : Change) (rest : Channel)
  /-- Nothing yet. -/
  | waiting
  /-- Nothing any more. -/
  | ended
deriving DecidableEq

namespace Channel

/-- The largest capacity that a channel can have. -/
def largestCapacity : Nat :=
  2305843009213693951

/-- A new channel with one sender.  There is none for a capacity out of range. -/
def new? (capacity : Nat) : Option Channel :=
  if 0 < capacity ∧ capacity ≤ largestCapacity then some ⟨capacity, [], 1, true⟩ else none

/-- The channel after it took a change. -/
def offer (change : Change) (channel : Channel) : Except Refusal Channel :=
  if ¬ channel.isOpen then .error .closed
  else if channel.queue.length < channel.capacity then
    .ok { channel with queue := channel.queue ++ [change] }
  else .error .full

/-- The channel with one sender more. -/
def addSender (channel : Channel) : Channel :=
  { channel with senders := channel.senders + 1 }

/-- The channel with one sender less. -/
def dropSender (channel : Channel) : Channel :=
  { channel with senders := channel.senders - 1 }

/-- The channel without its receiver; what it held is lost. -/
def close (channel : Channel) : Channel :=
  { channel with queue := [], isOpen := false }

/-- What the receiver gets next. -/
def receive (channel : Channel) : Reception :=
  match channel.queue with
  | change :: queue => .received change { channel with queue }
  | [] => if channel.senders = 0 then .ended else .waiting

/-- A new channel is open and empty, and its capacity is the one that was asked for. -/
theorem new?_eq_some_iff (capacity : Nat) (channel : Channel) :
    new? capacity = some channel ↔
      (0 < capacity ∧ capacity ≤ largestCapacity) ∧ ⟨capacity, [], 1, true⟩ = channel := by
  simp only [new?, Option.ite_none_right_eq_some, Option.some_inj]

/-- A channel takes a change exactly when its receiver is there and it has room. -/
theorem offer_eq_ok_iff (change : Change) (channel after : Channel) :
    channel.offer change = .ok after ↔
      channel.isOpen = true ∧ channel.queue.length < channel.capacity ∧
        { channel with queue := channel.queue ++ [change] } = after := by
  obtain ⟨capacity, queue, senders, isOpen⟩ := channel
  cases isOpen with
  | false => simp [offer]
  | true => by_cases room : queue.length < capacity <;> simp [offer, room]

theorem receive_eq_received_iff (channel rest : Channel) (change : Change) :
    channel.receive = .received change rest ↔
      ∃ queue, channel.queue = change :: queue ∧ { channel with queue } = rest := by
  obtain ⟨capacity, queue, senders, isOpen⟩ := channel
  cases queue with
  | nil => by_cases alone : senders = 0 <;> simp [receive, alone]
  | cons oldest queue => simp [receive, and_assoc]

/-- The receiver gets nothing any more exactly when nothing waits and no sender
is left. -/
theorem receive_eq_ended_iff (channel : Channel) :
    channel.receive = .ended ↔ channel.queue = [] ∧ channel.senders = 0 := by
  obtain ⟨capacity, queue, senders, isOpen⟩ := channel
  cases queue with
  | nil => by_cases alone : senders = 0 <;> simp [receive, alone]
  | cons oldest queue => simp [receive]

end Channel

/-! ## Sending -/

/-- What comes of sending a change. -/
inductive Sending where
  | accepted
  | failed (error : PluginError)
  /-- The sender waits for room. -/
  | pending
deriving DecidableEq, Repr

namespace Channel

/-- Sending without waiting: a full channel is an error. -/
def trySend (change : Change) (channel : Channel) : Sending × Channel :=
  match channel.offer change with
  | .ok after => (.accepted, after)
  | .error refusal => (.failed refusal.toPluginError, channel)

/-- Sending that waits while the channel is full. -/
def send (change : Change) (channel : Channel) : Sending × Channel :=
  match channel.offer change with
  | .ok after => (.accepted, after)
  | .error .full => (.pending, channel)
  | .error .closed => (.failed Refusal.closed.toPluginError, channel)

end Channel

end ChangeRelay.Relay
