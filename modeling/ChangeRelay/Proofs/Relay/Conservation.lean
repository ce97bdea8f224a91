import ChangeRelay.Proofs.Relay.FanOut
import ChangeRelay.Proofs.Relay.Traffic
import Mathlib.Data.List.Nodup

/-!
# No change is lost on its way through a hub

Whatever happens at a hub, in whatever order: the changes of the calls that were
accepted are, in the order of their acceptance, those that the runner has taken
followed by those that wait.  A call that was refused or cancelled is not among
them.  The runner comes to its end only when every sender is gone and nothing
waits, and then it has taken every change that was accepted.

Two invariants carry this.  The ledger says that every call has one fate, and the
flow ties the channel and the runner to the calls that were accepted.
-/

namespace ChangeRelay.Relay

/-! ## What a runner has observed -/

namespace Runner

/-- The changes that a runner has taken, the oldest first. -/
def observed (runner : Runner) : List Change :=
  runner.received.reverse

@[simp]
theorem observed_process (runner : Runner) (change : Change) :
    (runner.process change).observed = runner.observed ++ [change] := by
  cases kept : (runner.chain.process change).2.kept <;> simp [observed, Runner.process, kept]

end Runner

/-! ## Histories that grow -/

theorem acceptedCalls_concat (history : List Happening) (happening : Happening) :
    acceptedCalls (history ++ [happening]) =
      acceptedCalls history ++ happening.accepted?.toList := by
  cases found : happening.accepted? <;> simp [acceptedCalls, found]

theorem failedCalls_concat (history : List Happening) (happening : Happening) :
    failedCalls (history ++ [happening]) = failedCalls history ++ happening.failed?.toList := by
  cases found : happening.failed? <;> simp [failedCalls, found]

/-- The changes that were accepted, in the order of their acceptance. -/
def acceptedChanges (history : List Happening) : List Change :=
  (acceptedCalls history).map (·.change)

theorem acceptedChanges_concat_accepted (history : List Happening) (call : Call) :
    acceptedChanges (history ++ [.accepted call]) = acceptedChanges history ++ [call.change] := by
  simp [acceptedChanges, acceptedCalls_concat, Happening.accepted?]

theorem acceptedChanges_concat_silent (history : List Happening) (happening : Happening)
    (silent : happening.accepted? = none) :
    acceptedChanges (history ++ [happening]) = acceptedChanges history := by
  simp [acceptedChanges, acceptedCalls_concat, silent]

namespace Traffic

variable {hub : Hub} {history : List Happening} {traffic after : Traffic} {happening : Happening}

/-! ## The ledger of calls -/

/-- Every call that has begun is accepted, failed or pending, and only once. -/
def Ledger (history : List Happening) (traffic : Traffic) : Prop :=
  ((acceptedCalls history ++ failedCalls history ++ traffic.pending).map (·.number)).Perm
    (List.range traffic.begun)

/-- A call that leaves the pending ones joins the accepted ones. -/
theorem perm_of_accepted {accepted failed pending : List Call} {call : Call}
    (member : call ∈ pending) :
    (accepted ++ [call] ++ failed ++ pending.erase call).Perm (accepted ++ failed ++ pending) := by
  have moved : (call :: (failed ++ pending.erase call)).Perm (failed ++ pending) :=
    List.perm_middle.symm.trans ((List.perm_cons_erase member).symm.append_left failed)
  simpa using moved.append_left accepted

/-- A call that leaves the pending ones joins the failed ones. -/
theorem perm_of_failed {accepted failed pending : List Call} {call : Call}
    (member : call ∈ pending) :
    (accepted ++ (failed ++ [call]) ++ pending.erase call).Perm
      (accepted ++ failed ++ pending) := by
  simpa using (List.perm_cons_erase member).symm.append_left (accepted ++ failed)

theorem Ledger.step (ledger : Ledger history traffic) (next : Step traffic happening after) :
    Ledger (history ++ [happening]) after := by
  unfold Ledger at ledger ⊢
  rw [acceptedCalls_concat, failedCalls_concat]
  cases next with
  | begun present numbered =>
      simp only [Happening.accepted?, Happening.failed?, Option.toList_none, List.append_nil]
      rw [← List.append_assoc, List.map_append, List.map_singleton, numbered, List.range_succ]
      exact ledger.append_right _
  | accepted member taken =>
      simp only [Happening.accepted?, Happening.failed?, Option.toList_none, Option.toList_some,
        List.append_nil]
      exact ((perm_of_accepted member).map _).trans ledger
  | full member _ | closed member _ | cancelled member _ =>
      simp only [Happening.accepted?, Happening.failed?, Option.toList_none, Option.toList_some,
        List.append_nil]
      exact ((perm_of_failed member).map _).trans ledger
  | cloned | dropped | processed | ended | abandoned =>
      simpa [Happening.accepted?, Happening.failed?] using ledger

theorem Run.ledger (run : Run hub history traffic) : Ledger history traffic := by
  induction run with
  | start opened => exact .nil
  | step run next ih => exact ih.step next

theorem Ledger.nodup (ledger : Ledger history traffic) :
    (acceptedCalls history ++ failedCalls history ++ traffic.pending).Nodup :=
  List.Nodup.of_map _ (ledger.nodup_iff.mpr List.nodup_range)

/-- No call is accepted twice. -/
theorem Ledger.nodup_accepted (ledger : Ledger history traffic) : (acceptedCalls history).Nodup :=
  List.Nodup.of_append_left (List.Nodup.of_append_left ledger.nodup)

/-- A call that failed is not accepted. -/
theorem Ledger.not_accepted (ledger : Ledger history traffic) {call : Call}
    (failed : call ∈ failedCalls history) : call ∉ acceptedCalls history := by
  intro accepted
  have distinct := List.Nodup.of_append_left ledger.nodup
  exact List.disjoint_of_nodup_append distinct accepted failed

/-! ## The flow of changes -/

/-- What holds at a hub whatever has happened there. -/
structure Flow (hub : Hub) (history : List Happening) (traffic : Traffic) : Prop where
  capacity : traffic.pipeline.channel.capacity = hub.capacity
  bounded : traffic.pipeline.channel.queue.length ≤ hub.capacity
  counted : traffic.pipeline.channel.senders = traffic.senders.length
  isOpen_iff : traffic.pipeline.channel.isOpen = true ↔ traffic.phase = .running
  /-- The runner has processed what it has observed and nothing else. -/
  processed : traffic.pipeline.runner = hub.start.processAll traffic.pipeline.runner.observed
  /-- Until the runner goes away, what was accepted is observed or waits. -/
  whole : traffic.phase ≠ .gone →
    acceptedChanges history = traffic.pipeline.runner.observed ++ traffic.pipeline.channel.queue
  front : traffic.pipeline.runner.observed <+: acceptedChanges history
  ended : ∀ report, traffic.phase = .ended report →
    traffic.senders = [] ∧ traffic.pipeline.channel.queue = [] ∧
      report = traffic.pipeline.runner.finish

namespace Flow

theorem start {channel : Channel} (opened : hub.openChannel? = some channel) :
    Flow hub [] (.start hub channel) := by
  obtain ⟨-, rfl⟩ := (Channel.new?_eq_some_iff _ _).mp opened
  exact {
    capacity := rfl
    bounded := Nat.zero_le _
    counted := rfl
    isOpen_iff := by simp [Traffic.start]
    processed := rfl
    whole := fun _ => rfl
    front := List.prefix_rfl
    ended := fun report impossible => by cases impossible }

variable (flow : Flow hub history traffic)
include flow

/-- A step that accepts nothing and at most changes the senders keeps the flow. -/
theorem of_silent (silent : happening.accepted? = none) (phase : after.phase = traffic.phase)
    (runner : after.pipeline.runner = traffic.pipeline.runner)
    (channel : after.pipeline.channel =
      { traffic.pipeline.channel with senders := after.senders.length })
    (alone : ∀ report, traffic.phase = .ended report → after.senders = []) :
    Flow hub (history ++ [happening]) after := by
  have accepted := acceptedChanges_concat_silent history happening silent
  exact {
    capacity := by rw [channel, flow.capacity]
    bounded := by rw [channel]; exact flow.bounded
    counted := by rw [channel]
    isOpen_iff := by rw [channel, phase]; exact flow.isOpen_iff
    processed := by rw [runner]; exact flow.processed
    whole := by rw [channel, runner, phase, accepted]; exact flow.whole
    front := by rw [runner, accepted]; exact flow.front
    ended := fun report ended => by
      rw [phase] at ended
      obtain ⟨-, empty, finished⟩ := flow.ended report ended
      rw [channel, runner]
      exact ⟨alone report ended, empty, finished⟩ }

/-- A step of a call that is not accepted leaves the hub as it is. -/
theorem of_same (silent : happening.accepted? = none)
    (pipeline : after.pipeline = traffic.pipeline) (phase : after.phase = traffic.phase)
    (senders : after.senders = traffic.senders) : Flow hub (history ++ [happening]) after := by
  refine flow.of_silent silent phase (by rw [pipeline]) ?_ fun report ended => ?_
  · rw [pipeline, senders, ← flow.counted]
  · rw [senders, (flow.ended report ended).1]

theorem accept {call : Call} {channel : Channel}
    (taken : call.put traffic.pipeline.channel = (.accepted, channel)) :
    Flow hub (history ++ [.accepted call])
      { traffic with
        pipeline := { traffic.pipeline with channel }
        pending := traffic.pending.erase call } := by
  rw [Call.put_eq_accepted_iff, Channel.offer_eq_ok_iff] at taken
  obtain ⟨isOpen, room, rfl⟩ := taken
  have accepted := acceptedChanges_concat_accepted history call
  have running := flow.isOpen_iff.mp isOpen
  exact {
    capacity := flow.capacity
    bounded := by
      have capacity := flow.capacity
      simp only [List.length_append, List.length_singleton]
      omega
    counted := flow.counted
    isOpen_iff := flow.isOpen_iff
    processed := flow.processed
    whole := fun present => by rw [accepted, flow.whole present, List.append_assoc]
    front := by
      rw [accepted]
      exact flow.front.trans (List.prefix_append _ _)
    ended := fun report impossible => by
      rw [running] at impossible
      cases impossible }

/-- A hub that has ended has no sender. -/
theorem not_ended {sender : Nat} (present : sender ∈ traffic.senders) (report : Report) :
    traffic.phase ≠ .ended report := by
  intro ended
  rw [(flow.ended report ended).1] at present
  cases present

theorem clone {sender : Nat} (present : sender ∈ traffic.senders) :
    Flow hub (history ++ [.cloned sender])
      { traffic with
        pipeline := { traffic.pipeline with channel := traffic.pipeline.channel.addSender }
        senders := traffic.issued :: traffic.senders
        issued := traffic.issued + 1 } := by
  refine flow.of_silent rfl rfl rfl ?_ fun report ended => absurd ended (flow.not_ended present _)
  simp [Channel.addSender, flow.counted]

theorem drop {sender : Nat} (present : sender ∈ traffic.senders) :
    Flow hub (history ++ [.dropped sender])
      { traffic with
        pipeline := { traffic.pipeline with channel := traffic.pipeline.channel.dropSender }
        senders := traffic.senders.erase sender } := by
  refine flow.of_silent rfl rfl rfl ?_ fun report ended => absurd ended (flow.not_ended present _)
  simp [Channel.dropSender, flow.counted, List.length_erase_of_mem present]

/-- The runner takes the oldest change of those that wait. -/
theorem process {change : Change} {rest : Channel} (running : traffic.phase = .running)
    (received : traffic.pipeline.channel.receive = .received change rest) :
    Flow hub (history ++ [.processed]) { traffic with pipeline := traffic.pipeline.advance } := by
  have advanced : traffic.pipeline.advance = ⟨rest, traffic.pipeline.runner.process change⟩ := by
    simp [Pipeline.advance, received]
  obtain ⟨queue, waiting, rfl⟩ := (Channel.receive_eq_received_iff _ _ _).mp received
  rw [advanced]
  have accepted : acceptedChanges (history ++ [.processed]) =
      traffic.pipeline.runner.observed ++ change :: queue := by
    have present : traffic.phase ≠ .gone := by simp [running]
    rw [← waiting, ← flow.whole present, acceptedChanges_concat_silent history .processed rfl]
  exact {
    capacity := flow.capacity
    bounded := by
      have bounded := flow.bounded
      rw [waiting, List.length_cons] at bounded
      simp only
      omega
    counted := flow.counted
    isOpen_iff := flow.isOpen_iff
    processed := by
      rw [Runner.observed_process, Runner.processAll_concat, ← flow.processed]
    whole := fun _ => by simp [accepted]
    front := by simp [accepted]
    ended := fun report impossible => by
      rw [running] at impossible
      cases impossible }

/-- The runner ends, or goes away, and the channel is closed. -/
theorem close {phase : Phase} (notRunning : phase ≠ .running)
    (silent : happening.accepted? = none)
    (whole : phase ≠ .gone → acceptedChanges history = traffic.pipeline.runner.observed)
    (ended : ∀ report, phase = .ended report →
      traffic.senders = [] ∧ report = traffic.pipeline.runner.finish) :
    Flow hub (history ++ [happening])
      { traffic with
        pipeline := { traffic.pipeline with channel := traffic.pipeline.channel.close }
        phase } := by
  have accepted := acceptedChanges_concat_silent history happening silent
  exact {
    capacity := flow.capacity
    bounded := Nat.zero_le _
    counted := flow.counted
    isOpen_iff := by simp [Channel.close, notRunning]
    processed := flow.processed
    whole := fun present => by simp [accepted, whole present, Channel.close]
    front := by rw [accepted]; exact flow.front
    ended := fun report isEnded => ⟨(ended report isEnded).1, rfl, (ended report isEnded).2⟩ }

theorem step (next : Step traffic happening after) : Flow hub (history ++ [happening]) after := by
  cases next with
  | begun | full | closed | cancelled => exact flow.of_same rfl rfl rfl rfl
  | accepted member taken => exact flow.accept taken
  | cloned present => exact flow.clone present
  | dropped present idle => exact flow.drop present
  | processed running received => exact flow.process running received
  | ended running nothing =>
      obtain ⟨empty, none⟩ := (Channel.receive_eq_ended_iff _).mp nothing
      have alone : traffic.senders = [] := by
        rw [← List.length_eq_zero_iff, ← flow.counted, none]
      refine flow.close (by simp) rfl (fun _ => ?_) ?_
      · rw [flow.whole (by simp [running]), empty, List.append_nil]
      · rintro report ⟨⟩
        exact ⟨alone, rfl⟩
  | abandoned running =>
      exact flow.close (by simp) rfl (fun present => absurd rfl present) (by simp)

end Flow

theorem Run.flow (run : Run hub history traffic) : Flow hub history traffic := by
  induction run with
  | start opened => exact .start opened
  | step run next ih => exact ih.step next

/-! ## The end of a run -/

/-- A runner that has ended reports a run over all that was accepted. -/
theorem Flow.report_eq (flow : Flow hub history traffic) {report : Report}
    (ended : traffic.phase = .ended report) : report = hub.run (acceptedChanges history) := by
  obtain ⟨alone, empty, finished⟩ := flow.ended report ended
  rw [finished, flow.processed, flow.whole (by simp [ended]), empty, List.append_nil]
  rfl

/-- Once all senders are gone, the runner takes what waits and ends. -/
theorem Run.ends (run : Run hub history traffic) (running : traffic.phase = .running)
    (alone : traffic.senders = []) :
    ∃ later last, (∀ happening ∈ later, happening = .processed ∨ happening = .ended) ∧
      Run hub (history ++ later) last ∧
        last.phase = .ended (hub.run (acceptedChanges history)) := by
  have counted := run.flow.counted
  rw [alone, List.length_nil] at counted
  -- The induction is on what waits: each step of the runner leaves one change less.
  induction waiting : traffic.pipeline.channel.queue generalizing history traffic with
  | nil =>
      have nothing : traffic.pipeline.channel.receive = .ended :=
        (Channel.receive_eq_ended_iff _).mpr ⟨waiting, counted⟩
      have last := run.step (.ended running nothing)
      refine ⟨[.ended], _, by simp, last, ?_⟩
      rw [← acceptedChanges_concat_silent history .ended rfl, ← last.flow.report_eq rfl]
  | cons change queue ih =>
      have received : traffic.pipeline.channel.receive =
          .received change { traffic.pipeline.channel with queue } :=
        (Channel.receive_eq_received_iff _ _ _).mpr ⟨queue, waiting, rfl⟩
      have advanced : traffic.pipeline.advance.channel =
          { traffic.pipeline.channel with queue } := by
        simp [Pipeline.advance, received]
      obtain ⟨later, last, runnersOnly, laterRun, ended⟩ :=
        ih (run.step (.processed running received)) running alone (by simp [advanced, counted])
          (by simp [advanced])
      rw [acceptedChanges_concat_silent history .processed rfl] at ended
      refine ⟨.processed :: later, last, ?_, by simpa using laterRun, ended⟩
      simpa using runnersOnly

/-! ## Nothing is lost, doubled or put out of order -/

/-- At a hub with any capacity and after any history: at most that many changes
wait; what was accepted is, in the order of acceptance, what the runner has
observed followed by what waits; a call that failed is not among the accepted
ones, so that neither the stages nor an emitter have seen its change; and a
runner that has ended leaves nothing, while it ends in any case once all senders
are gone. -/
theorem accepted_changes_are_conserved {capacity : Nat}
    (run : Run (hub.withCapacity capacity) history traffic) :
    traffic.pipeline.channel.queue.length ≤ max capacity 1 ∧
      (traffic.phase ≠ .gone →
        acceptedChanges history =
          traffic.pipeline.runner.observed ++ traffic.pipeline.channel.queue) ∧
      traffic.pipeline.runner.observed <+: acceptedChanges history ∧
      traffic.pipeline.runner =
        (hub.withCapacity capacity).start.processAll traffic.pipeline.runner.observed ∧
      traffic.pipeline.runner.emitters =
        hub.emitters.map (fun emitter =>
          ⟨emitter, batches (hub.kept traffic.pipeline.runner.observed)⟩) ∧
      (acceptedCalls history).Nodup ∧
      (∀ call ∈ failedCalls history, call ∉ acceptedCalls history) ∧
      (∀ report, traffic.phase = .ended report →
        traffic.senders = [] ∧ traffic.pipeline.channel.queue = [] ∧
          report = (hub.withCapacity capacity).run (acceptedChanges history) ∧
          report.runner.stats.observed = (acceptedCalls history).length) ∧
      (traffic.phase = .running → traffic.senders = [] →
        ∃ later last, (∀ happening ∈ later, happening = .processed ∨ happening = .ended) ∧
          Run (hub.withCapacity capacity) (history ++ later) last ∧
          last.phase = .ended ((hub.withCapacity capacity).run (acceptedChanges history))) := by
  have flow := run.flow
  have served := Runner.served_processAll (hub.withCapacity capacity)
    traffic.pipeline.runner.observed
  rw [← flow.processed] at served
  refine ⟨flow.bounded, flow.whole, flow.front, flow.processed, served.emitters,
    run.ledger.nodup_accepted, fun call => run.ledger.not_accepted, fun report ended => ?_,
    run.ends⟩
  obtain ⟨alone, empty, -⟩ := flow.ended report ended
  have whole := flow.report_eq ended
  refine ⟨alone, empty, whole, ?_⟩
  rw [whole, (fanOut_run _ _).observed, acceptedChanges, List.length_map]

/-! ## A hub whose senders go away -/

/-- The call with a number, of a sender, with the sample change of that number. -/
def sampleCall (number sender : Nat) (waits : Bool) : Call :=
  ⟨number, sender, ⟨toString number, .created, .other .null, none⟩, waits⟩

/-- Two senders at a hub with room for one change: the first call is accepted, the
second one finds no room, and the third one waits until its task is aborted. -/
def sampleHistory : List Happening :=
  [.cloned 0, .begun (sampleCall 0 0 false), .accepted (sampleCall 0 0 false),
    .begun (sampleCall 1 0 false), .refused (sampleCall 1 0 false) .full,
    .begun (sampleCall 2 1 true), .cancelled (sampleCall 2 1 true), .dropped 1, .dropped 0]

/-- What the first call handed over waits until both senders are gone, and the
runner still takes it before it ends. -/
theorem accepted_changes_are_conserved_abortedSender :
    ∃ traffic later last,
      Run ((sampleHub false).withCapacity 0) sampleHistory traffic ∧
        traffic.pipeline.channel.queue = [(sampleCall 0 0 false).change] ∧
        acceptedChanges sampleHistory =
          traffic.pipeline.runner.observed ++ traffic.pipeline.channel.queue ∧
        (∀ call ∈ failedCalls sampleHistory, call ∉ acceptedCalls sampleHistory) ∧
        Run ((sampleHub false).withCapacity 0) (sampleHistory ++ later) last ∧
        last.phase =
          .ended (((sampleHub false).withCapacity 0).run (acceptedChanges sampleHistory)) := by
  have opened : ((sampleHub false).withCapacity 0).openChannel? = some ⟨1, [], 1, true⟩ := by
    decide
  have cloned := (Run.start opened).step (.cloned (List.mem_singleton_self 0))
  have first := cloned.step (.begun (show (sampleCall 0 0 false).sender ∈ _ by decide) rfl)
  have accepted := first.step (.accepted (List.mem_singleton_self _) rfl)
  have second := accepted.step (.begun (show (sampleCall 1 0 false).sender ∈ _ by decide) rfl)
  have refused := second.step (.full (List.mem_singleton_self _) rfl)
  have third := refused.step (.begun (show (sampleCall 2 1 true).sender ∈ _ by decide) rfl)
  have cancelled := third.step (.cancelled (List.mem_singleton_self _) rfl)
  have aborted := cancelled.step (.dropped (show 1 ∈ _ by decide) nofun)
  have run := aborted.step (.dropped (show 0 ∈ _ by decide) nofun)
  obtain ⟨-, whole, -, -, -, -, failed, -, ends⟩ := accepted_changes_are_conserved run
  obtain ⟨later, last, -, laterRun, ended⟩ := ends rfl rfl
  exact ⟨_, later, last, run, rfl, whole nofun, failed, laterRun, ended⟩

end Traffic

end ChangeRelay.Relay
