import ChangeRelay.Admission.Filter

/-!
# Stages

A stage sees every change that reaches it and lets it pass, replaces it or
drops it.  It may remember what it received: the state of a stage is the list
of the changes that it received so far, and what it does is a function of this
list and of the next change.

Stages work one after another in a chain, and a change that one of them drops
does not reach the next.
-/

namespace ChangeRelay.Relay

/-- What comes of a change. -/
structure Verdict where
  kept : Option Change
  log : List Log.Entry
deriving DecidableEq

/-- A stage of the relay. -/
structure Stage where
  name : String
  /-- What comes of a change after those received before, the newest first. -/
  judge : List Change → Change → Verdict

/-- A stage at work, with the changes that it received, the newest first. -/
structure StageState where
  stage : Stage
  received : List Change

/-- Stages at work, in their order. -/
abbrev Chain :=
  List StageState

namespace Chain

/-- The chain of some stages, before any change. -/
def ofStages (stages : List Stage) : Chain :=
  stages.map fun stage => ⟨stage, []⟩

/-- The names of the stages. -/
def names (chain : Chain) : List String :=
  chain.map (·.stage.name)

/-- What comes of a change in a chain, and the chain after it. -/
def process : Chain → Change → Chain × Verdict
  | [], change => ([], ⟨some change, []⟩)
  | ⟨stage, received⟩ :: rest, change =>
      let verdict := stage.judge received change
      let state : StageState := ⟨stage, change :: received⟩
      match verdict.kept with
      | none => (state :: rest, verdict)
      | some kept =>
          let (after, later) := process rest kept
          (state :: after, ⟨later.kept, verdict.log ++ later.log⟩)

/-- A chain of one stage answers what the stage answers, whether it keeps the change, replaces
it or drops it, and the stage remembers the change that it was called with. -/
theorem process_singleton (stage : Stage) (received : List Change) (change : Change) :
    process [⟨stage, received⟩] change =
      ([⟨stage, change :: received⟩], stage.judge received change) := by
  cases judged : stage.judge received change with
  | mk kept log => cases kept <;> simp [process, judged]

/-- What comes of some changes, one after another, and the chain after them. -/
def processAll (chain : Chain) : List Change → Chain × List Verdict
  | [] => (chain, [])
  | change :: changes =>
      let (next, verdict) := process chain change
      let (last, verdicts) := processAll next changes
      (last, verdict :: verdicts)

end Chain

/-! ## The admission filter as a stage -/

/-- The entry about a change that the filter drops. -/
def droppedEntry (change : Change) : Log.Entry :=
  Log.debug "event filtered out" [
    ("kind", change.kind), ("reason", change.reason.label),
    ("namespace", change.namespaceName), ("name", change.name)]

/-- The stage that lets through what the filter sends. -/
def Stage.ofFilter (filter : Admission.Filter) : Stage where
  name := "event-filter"
  judge _ change :=
    let finding := filter.examine change
    if finding.sends then ⟨some change, finding.log⟩
    else ⟨none, finding.log ++ [droppedEntry change]⟩

end ChangeRelay.Relay
