import ChangeRelay.Proofs.Relay.FanOut

/-!
# Chains are put together from their stages

A chain of one stage answers what the stage answers.  A longer chain works like its first
stages, and then its other stages on what the first ones keep.  This law about a chain
that is cut in two says what every stage is called with, wherever it stands: the changes
that the stages before it keep, as they leave them and in the order in which they came.

Stages that only drop changes, and do so whatever they received before, keep a change
if and only if each of them does.  So their order and their number make no difference.
-/

namespace ChangeRelay.Relay

/-! ## Two chains one behind the other -/

/-- The verdict of two chains about a change that the first one keeps. -/
def Verdict.followedBy (verdict later : Verdict) : Verdict :=
  ⟨later.kept, verdict.log ++ later.log⟩

/-- The verdicts of two chains: each change that the first one keeps is judged next by
the second one, and the others are not judged again. -/
def handOver : List Verdict → List Verdict → List Verdict
  | ⟨none, log⟩ :: rest, later => ⟨none, log⟩ :: handOver rest later
  | ⟨some change, log⟩ :: rest, next :: later =>
      Verdict.followedBy ⟨some change, log⟩ next :: handOver rest later
  | _, _ => []

theorem handOver_of_dropped {verdict : Verdict} (dropped : verdict.kept = none)
    (rest later : List Verdict) :
    handOver (verdict :: rest) later = verdict :: handOver rest later := by
  rcases verdict with ⟨kept, log⟩
  cases dropped
  rfl

theorem handOver_of_kept {verdict : Verdict} {change : Change} (kept : verdict.kept = some change)
    (rest : List Verdict) (next : Verdict) (later : List Verdict) :
    handOver (verdict :: rest) (next :: later) =
      verdict.followedBy next :: handOver rest later := by
  rcases verdict with ⟨kept, log⟩
  cases kept
  rfl

namespace Chain

/-- The changes that a chain keeps, as it leaves them. -/
def survivors (chain : Chain) (changes : List Change) : List Change :=
  (chain.processAll changes).2.filterMap (·.kept)

/-- Process changes with a first chain, and with a second one only what the first one
keeps. -/
def processInTurn (first second : Chain) (changes : List Change) : Chain × List Verdict :=
  let (firstAfter, verdicts) := first.processAll changes
  let (secondAfter, later) := second.processAll (verdicts.filterMap (·.kept))
  (firstAfter ++ secondAfter, handOver verdicts later)

theorem process_append_of_dropped {first : Chain} {change : Change}
    (dropped : (first.process change).2.kept = none) (second : Chain) :
    (first ++ second).process change =
      ((first.process change).1 ++ second, (first.process change).2) := by
  induction first generalizing change with
  | nil => cases dropped
  | cons state rest ih =>
      simp only [process] at dropped
      cases judged : (state.stage.judge state.received change).kept with
      | none => simp [process, judged]
      | some outcome =>
          simp only [judged] at dropped
          simp [process, judged, ih dropped, dropped]

theorem process_append_of_kept {first : Chain} {change outcome : Change}
    (kept : (first.process change).2.kept = some outcome) (second : Chain) :
    (first ++ second).process change =
      ((first.process change).1 ++ (second.process outcome).1,
        (first.process change).2.followedBy (second.process outcome).2) := by
  induction first generalizing change with
  | nil =>
      cases kept
      simp [process, Verdict.followedBy]
  | cons state rest ih =>
      simp only [process] at kept
      cases judged : (state.stage.judge state.received change).kept with
      | none =>
          simp only [judged] at kept
          cases kept
      | some passed =>
          simp only [judged] at kept
          simp [process, judged, ih kept, Verdict.followedBy]

/-- Two chains one behind the other work like the first one, and then the second one on
what the first one keeps. -/
theorem processAll_append (first second : Chain) (changes : List Change) :
    (first ++ second).processAll changes = processInTurn first second changes := by
  induction changes generalizing first second with
  | nil => rfl
  | cons change changes ih =>
      cases kept : (first.process change).2.kept with
      | none =>
          simp [processAll, process_append_of_dropped kept, ih, processInTurn, kept,
            handOver_of_dropped]
      | some outcome =>
          simp [processAll, process_append_of_kept kept, ih, processInTurn, kept,
            handOver_of_kept]

/-- The second one of two chains keeps what the first one kept before. -/
theorem survivors_append (first second : Chain) (changes : List Change) :
    (first ++ second).survivors changes = second.survivors (first.survivors changes) := by
  induction changes generalizing first second with
  | nil => rfl
  | cons change changes ih =>
      simp only [survivors] at ih ⊢
      cases kept : (first.process change).2.kept with
      | none => simp [processAll, process_append_of_dropped kept, kept, ih]
      | some outcome =>
          simp [processAll, process_append_of_kept kept, kept, ih, Verdict.followedBy,
            List.filterMap_cons]

/-- An empty chain returns every change as it is. -/
theorem processAll_nil (changes : List Change) :
    processAll [] changes = ([], changes.map fun change => ⟨some change, []⟩) := by
  induction changes with
  | nil => rfl
  | cons change changes ih => simp [processAll, process, ih]

theorem survivors_nil (changes : List Change) : survivors [] changes = changes := by
  rw [survivors, processAll_nil, List.filterMap_map]
  exact List.filterMap_some

/-! ## What the stages are called with -/

theorem fst_processAll_singleton (state : StageState) (changes : List Change) :
    (processAll [state] changes).1 = [⟨state.stage, changes.reverse ++ state.received⟩] := by
  induction changes generalizing state with
  | nil => rfl
  | cons change changes ih =>
      rcases state with ⟨stage, received⟩
      simp [processAll, process_singleton, ih]

/-- A single stage is asked about each change after those that came before it, and what it
answers is the verdict. -/
theorem getElem?_processAll_singleton (stage : Stage) (received changes : List Change)
    (index : Nat) :
    (processAll [⟨stage, received⟩] changes).2[index]? =
      changes[index]?.map (stage.judge ((changes.take index).reverse ++ received)) := by
  induction changes generalizing received index with
  | nil => rfl
  | cons change changes ih =>
      cases index with
      | zero => simp [processAll, process_singleton]
      | succ index => simp [processAll, process_singleton, ih]

theorem fst_processAll_append (first second : Chain) (changes : List Change) :
    ((first ++ second).processAll changes).1 =
      (first.processAll changes).1 ++ (second.processAll (first.survivors changes)).1 := by
  rw [processAll_append]
  rfl

/-- A stage is called with what the stages before it keep, once for each of these changes
and in their order. -/
theorem fst_processAll_append_cons (before : Chain) (state : StageState) (rest : Chain)
    (changes : List Change) :
    ((before ++ state :: rest).processAll changes).1 =
      (before.processAll changes).1 ++
        ⟨state.stage, (before.survivors changes).reverse ++ state.received⟩ ::
          (rest.processAll ((before ++ [state]).survivors changes)).1 := by
  rw [List.append_cons, fst_processAll_append, fst_processAll_append, fst_processAll_singleton]
  simp

theorem length_verdicts (chain : Chain) (changes : List Change) :
    (chain.processAll changes).2.length = changes.length := by
  induction changes generalizing chain with
  | nil => rfl
  | cons change changes ih => simp [processAll, ih]

theorem length_survivors_le (chain : Chain) (changes : List Change) :
    (chain.survivors changes).length ≤ changes.length := by
  rw [← chain.length_verdicts changes]
  exact List.length_filterMap_le _ _

/-- How often each stage of a chain was called. -/
def callCounts (chain : Chain) : List Nat :=
  chain.map (·.received.length)

theorem callCounts_ofStages_nil (changes : List Change) :
    ((ofStages []).processAll changes).1.callCounts = [] :=
  congrArg (callCounts ∘ Prod.fst) (processAll_nil changes)

theorem callCounts_ofStages_cons (stage : Stage) (stages : List Stage) (changes : List Change) :
    ((ofStages (stage :: stages)).processAll changes).1.callCounts =
      changes.length ::
        ((ofStages stages).processAll (survivors [⟨stage, []⟩] changes)).1.callCounts := by
  have after := fst_processAll_append_cons [] ⟨stage, []⟩ (ofStages stages) changes
  simpa [survivors_nil, processAll_nil, callCounts, ofStages] using congrArg callCounts after

/-- No stage is called more often than changes come, nor than a stage before it. -/
theorem pairwise_callCounts (stages : List Stage) (changes : List Change) :
    (changes.length ::
      ((ofStages stages).processAll changes).1.callCounts).Pairwise (· ≥ ·) := by
  induction stages generalizing changes with
  | nil =>
      rw [callCounts_ofStages_nil]
      exact List.pairwise_singleton _ _
  | cons stage stages ih =>
      rw [callCounts_ofStages_cons]
      have passed := ih (survivors [⟨stage, []⟩] changes)
      have fewer := length_survivors_le [⟨stage, []⟩] changes
      simp only [List.pairwise_cons, List.forall_mem_cons] at passed ⊢
      obtain ⟨bounded, ordered⟩ := passed
      have below := fun count member => Nat.le_trans (bounded count member) fewer
      exact ⟨⟨Nat.le_refl _, below⟩, below, ordered⟩

end Chain

/-! ## Stages that only drop changes -/

/-- A stage that keeps changes only as they are, and decides about each of them in the same
way whatever it received before. -/
structure Stage.IsSieve (stage : Stage) : Prop where
  unmodified : ∀ received change outcome,
    (stage.judge received change).kept = some outcome → outcome = change
  stateless : ∀ earlier later change,
    (stage.judge earlier change).kept = (stage.judge later change).kept

/-- A stage that received nothing yet keeps a change as it is. -/
def Stage.Passes (stage : Stage) (change : Change) : Prop :=
  (stage.judge [] change).kept = some change

instance (stage : Stage) (change : Change) : Decidable (stage.Passes change) :=
  inferInstanceAs (Decidable (_ = _))

theorem Stage.IsSieve.kept_eq {stage : Stage} (sieve : stage.IsSieve) (received : List Change)
    (change : Change) :
    (stage.judge received change).kept = if stage.Passes change then some change else none := by
  rw [sieve.stateless received [] change]
  cases kept : (stage.judge [] change).kept with
  | none => simp [Passes, kept]
  | some outcome =>
      cases sieve.unmodified [] change outcome kept
      simp [Passes, kept]

theorem isSieve_ofFilter (filter : Admission.Filter) : (Stage.ofFilter filter).IsSieve where
  unmodified received change outcome kept := by
    simp only [Stage.ofFilter] at kept
    split at kept <;> cases kept
    rfl
  stateless _ _ _ := rfl

namespace Chain

/-- The stages of a chain. -/
def stages (chain : Chain) : List Stage :=
  chain.map (·.stage)

theorem stages_process (chain : Chain) (change : Change) :
    (chain.process change).1.stages = chain.stages := by
  induction chain generalizing change with
  | nil => rfl
  | cons state rest ih =>
      cases judged : (state.stage.judge state.received change).kept with
      | none => simp [process, judged, stages]
      | some outcome =>
          have rest := ih outcome
          simp only [stages] at rest
          simp [process, judged, stages, rest]

theorem kept_process_of_sieves {chain : Chain} (sieves : ∀ stage ∈ chain.stages, stage.IsSieve)
    (change : Change) :
    (chain.process change).2.kept =
      if ∀ stage ∈ chain.stages, stage.Passes change then some change else none := by
  induction chain with
  | nil => rfl
  | cons state rest ih =>
      have sieve : state.stage.IsSieve := sieves state.stage List.mem_cons_self
      have rest := ih fun stage member => sieves stage (List.mem_cons_of_mem _ member)
      have judged := sieve.kept_eq state.received change
      by_cases passes : state.stage.Passes change
      · rw [if_pos passes] at judged
        simp only [process, judged, rest]
        simp [stages, passes]
      · rw [if_neg passes] at judged
        simp only [process, judged]
        simp [stages, passes]

theorem kept_processAll_of_sieves {chain : Chain}
    (sieves : ∀ stage ∈ chain.stages, stage.IsSieve) (changes : List Change) :
    (chain.processAll changes).2.map (·.kept) = changes.map fun change =>
      if ∀ stage ∈ chain.stages, stage.Passes change then some change else none := by
  induction changes generalizing chain with
  | nil => rfl
  | cons change changes ih =>
      have same := chain.stages_process change
      have later := @ih (chain.process change).1 (by rwa [same])
      rw [same] at later
      simp only [processAll, List.map_cons, kept_process_of_sieves sieves, later]

/-- Chains of the same stages, in whatever order and however often, keep the same. -/
theorem kept_processAll_congr {first second : Chain}
    (sieves : ∀ stage ∈ first.stages, stage.IsSieve)
    (same : ∀ stage, stage ∈ first.stages ↔ stage ∈ second.stages) (changes : List Change) :
    (first.processAll changes).2.map (·.kept) = (second.processAll changes).2.map (·.kept) := by
  have sieves' : ∀ stage ∈ second.stages, stage.IsSieve :=
    fun stage member => sieves stage ((same stage).mpr member)
  rw [kept_processAll_of_sieves sieves, kept_processAll_of_sieves sieves']
  simp only [same]

/-- A chain is composed of its stages, whatever these make of a change and whatever they
remember.  A chain of one stage answers what the stage answers, to one change and to each of
many.  Cut in two, a chain works like one part after the other; an empty one changes
nothing; and each stage is called with what the stages before it keep, so that no stage is
called more often than one before it.  If the stages only drop changes, neither their order
nor their number makes a difference to what is kept. -/
theorem chain_is_composed_of_its_stages :
    (∀ (stage : Stage) (received : List Change) (change : Change),
      process [⟨stage, received⟩] change =
        ([⟨stage, change :: received⟩], stage.judge received change)) ∧
    (∀ (stage : Stage) (received changes : List Change) (index : Nat),
      (processAll [⟨stage, received⟩] changes).2[index]? =
        changes[index]?.map (stage.judge ((changes.take index).reverse ++ received))) ∧
    (∀ (first second : Chain) (changes : List Change),
      (first ++ second).processAll changes = processInTurn first second changes ∧
        (first ++ second).survivors changes = second.survivors (first.survivors changes)) ∧
    (∀ changes : List Change,
      processAll [] changes = ([], changes.map fun change => ⟨some change, []⟩)) ∧
    (∀ (before : Chain) (state : StageState) (rest : Chain) (changes : List Change),
      ((before ++ state :: rest).processAll changes).1 =
        (before.processAll changes).1 ++
          ⟨state.stage, (before.survivors changes).reverse ++ state.received⟩ ::
            (rest.processAll ((before ++ [state]).survivors changes)).1) ∧
    (∀ (stages : List Stage) (changes : List Change),
      (changes.length ::
        ((ofStages stages).processAll changes).1.callCounts).Pairwise (· ≥ ·)) ∧
    ∀ first second : Chain, (∀ stage ∈ first.stages, stage.IsSieve) →
      (∀ stage, stage ∈ first.stages ↔ stage ∈ second.stages) →
        ∀ changes : List Change,
          (first.processAll changes).2.map (·.kept) =
            (second.processAll changes).2.map (·.kept) := by
  refine ⟨process_singleton, getElem?_processAll_singleton, ?_, processAll_nil,
    fst_processAll_append_cons, pairwise_callCounts, ?_⟩
  · intro first second changes
    exact ⟨processAll_append first second changes, survivors_append first second changes⟩
  · intro first second sieves same changes
    exact kept_processAll_congr sieves same changes

/-! ## Two chains of the same stages -/

/-- A stage that drops deletions. -/
def deletionSieve : Stage where
  name := "deletions"
  judge _ change := ⟨if change.reason = .deleted then none else some change, []⟩

theorem isSieve_deletionSieve : deletionSieve.IsSieve where
  unmodified received change outcome kept := by
    simp only [deletionSieve] at kept
    split at kept <;> cases kept
    rfl
  stateless _ _ _ := rfl

/-- The admission filter, and behind it the stage that drops deletions. -/
def filterFirst : Chain :=
  ofStages [.ofFilter ⟨true⟩, deletionSieve]

/-- The same stages the other way round, one of them twice. -/
def filterBetween : Chain :=
  ofStages [deletionSieve, .ofFilter ⟨true⟩, deletionSieve]

/-- A stage that lets its first change pass and makes an update of every later one. -/
def updating : Stage where
  name := "updating"
  judge received change :=
    ⟨some (if received.isEmpty then change else { change with reason := .updated }), []⟩

/-- A change that both stages keep, one that the filter drops, one that both keep, and a
deletion. -/
def mixedChanges : List Change :=
  sampleChanges ++ [⟨"Node", .deleted, .other .null, none⟩]

/-- Both chains keep the first and the third change.  Behind a stage that makes updates of
all changes but the first they keep the fourth too, which is a deletion, as it was left: as
an update. -/
theorem chain_is_composed_of_its_stages_filterBetween :
    (∀ stage ∈ filterFirst.stages, stage.IsSieve) ∧
      (∀ stage, stage ∈ filterFirst.stages ↔ stage ∈ filterBetween.stages) ∧
      (filterFirst.processAll mixedChanges).2.map (·.kept) =
        (filterBetween.processAll mixedChanges).2.map (·.kept) ∧
      filterBetween.survivors mixedChanges =
        mixedChanges.filter (·.reason ∈ [.created, .updated]) ∧
      process [⟨updating, sampleChanges⟩] ⟨"Node", .deleted, .other .null, none⟩ =
        ([⟨updating, ⟨"Node", .deleted, .other .null, none⟩ :: sampleChanges⟩],
          ⟨some ⟨"Node", .updated, .other .null, none⟩, []⟩) ∧
      (ofStages [updating] ++ filterBetween).survivors mixedChanges =
        filterBetween.survivors ((ofStages [updating]).survivors mixedChanges) ∧
      (ofStages [updating] ++ filterBetween).survivors mixedChanges =
        [⟨"Job", .created, .other .null, none⟩, ⟨"Job", .updated, .other .null, none⟩,
          ⟨"Service", .updated, .other .null, none⟩, ⟨"Node", .updated, .other .null, none⟩] := by
  have sieves : ∀ stage ∈ filterFirst.stages, stage.IsSieve := by
    simp only [filterFirst, stages, ofStages, List.map_cons, List.map_nil, List.forall_mem_cons]
    exact ⟨isSieve_ofFilter _, isSieve_deletionSieve, List.forall_mem_nil _⟩
  have same : ∀ stage, stage ∈ filterFirst.stages ↔ stage ∈ filterBetween.stages := by
    intro stage
    simp [filterFirst, filterBetween, stages, ofStages, or_comm]
  obtain ⟨single, -, composed, -, -, -, independent⟩ := chain_is_composed_of_its_stages
  have behind := (composed (ofStages [updating]) filterBetween mixedChanges).2
  exact ⟨sieves, same, independent filterFirst filterBetween sieves same mixedChanges, rfl,
    single updating sampleChanges _, behind, behind.trans rfl⟩

end Chain

end ChangeRelay.Relay
