import ChangeRelay.Proofs.Config.Loading
import ChangeRelay.Proofs.Relay.FanOut
import Mathlib.Logic.Function.Basic

/-!
# A mistake in the filter setting sends everything

Filtering is on for the spellings of true and off for every other text, and only a
text that is no truth value is complained about.  While filtering is off, a hub with
the filter as its only stage gives every change to every emitter.  The setting is
never a fault: it goes into the configuration as it is.
-/

namespace ChangeRelay

/-! ## The setting -/

namespace Admission.Filter

/-- The texts that stand for true. -/
def trueTexts : List String :=
  ["1", "t", "T", "TRUE", "true", "True"]

/-- The texts that stand for false. -/
def falseTexts : List String :=
  ["0", "f", "F", "FALSE", "false", "False"]

theorem readFlag?_eq_some_true_iff {text : String} :
    readFlag? text = some true ↔ text ∈ trueTexts := by
  unfold readFlag?
  rw [← trueTexts]
  by_cases yes : text ∈ trueTexts
  · simp only [yes, if_true]
  · simp only [yes, if_false, iff_false]
    split <;> nofun

theorem readFlag?_eq_none_iff {text : String} :
    readFlag? text = none ↔ text ∉ trueTexts ∧ text ∉ falseTexts := by
  unfold readFlag?
  rw [← trueTexts, ← falseTexts]
  by_cases yes : text ∈ trueTexts
  · simp [yes]
  · by_cases no : text ∈ falseTexts
    · simp [yes, no]
    · simp [yes, no]

/-- An empty text counts as no setting. -/
theorem ofSetting_empty : ofSetting (some "") = ofSetting none :=
  rfl

theorem ofSetting_some {text : String} (nonempty : text ≠ "") :
    (ofSetting (some text)).1 = ⟨(readFlag? text).getD false⟩ := by
  simp [ofSetting, nonempty]

theorem enabled_ofSetting_iff {set : Option String} :
    (ofSetting set).1.enabled = true ↔ ∃ text ∈ trueTexts, set = some text := by
  cases set with
  | none => exact ⟨nofun, nofun⟩
  | some text =>
      have spelled : (∃ other ∈ trueTexts, some text = some other) ↔ text ∈ trueTexts := by simp
      rw [spelled, ← readFlag?_eq_some_true_iff]
      by_cases empty : text = ""
      · subst empty
        decide
      · rw [ofSetting_some empty]
        cases readFlag? text with
        | none => decide
        | some flag => cases flag <;> decide

/-- What is logged about a setting contains a warning only for a text that is no truth
value. -/
theorem warns_ofSetting_iff {set : Option String} :
    (∃ entry ∈ (ofSetting set).2, entry.level = .warn) ↔
      ∃ text, set = some text ∧ text ≠ "" ∧ text ∉ trueTexts ∧ text ∉ falseTexts := by
  cases set with
  | none => simp [ofSetting, Log.info]
  | some text =>
      simp only [Option.some.injEq, exists_eq_left', ← readFlag?_eq_none_iff]
      by_cases empty : text = ""
      · simp [ofSetting, empty, Log.info]
      · cases flag : readFlag? text with
        | none => simp [ofSetting, empty, flag, Log.warn]
        | some value => simp [ofSetting, empty, flag, Log.info]

theorem sends_of_disabled {filter : Filter} (disabled : filter.enabled = false) (change : Change) :
    (filter.examine change).sends = true := by
  rw [examine, disabled]
  rfl

end Admission.Filter

/-! ## Loading -/

namespace Config

variable {lookup : String → Option String} {config : Config}

theorem advancedFilters_eq (loaded : load lookup = .ok config) :
    config.advancedFilters = setting lookup .advancedFilters := by
  have field : readOr none (fun text => .ok (some text)) (setting lookup .advancedFilters) =
      .ok config.advancedFilters := load_eq_ok_iff.mp loaded .advancedFilters
  rw [readOr_none_ok_some] at field
  exact (Except.ok.inj field).symm

/-- An empty setting is left out, which makes no difference to the filter. -/
theorem ofSetting_setting (lookup : String → Option String) (which : Variable) :
    Admission.Filter.ofSetting (setting lookup which) =
      Admission.Filter.ofSetting (lookup which.name) := by
  unfold setting
  cases lookup which.name with
  | none => rfl
  | some text =>
      by_cases empty : text = ""
      · subst empty
        exact Admission.Filter.ofSetting_empty.symm
      · simp [Option.filter, empty]

/-- Another value of a variable is another value of its setting, and of no other one. -/
theorem setting_update (lookup : String → Option String) (which : Variable)
    (value : Option String) :
    setting (Function.update lookup which.name value) =
      Function.update (setting lookup) which (value.filter (· ≠ "")) := by
  funext other
  by_cases same : other = which
  · subst same
    rw [Function.update_self, setting, Function.update_self]
  · have otherName : other.name ≠ which.name := by
      intro sameName
      exact same (Variable.name_injective sameName)
    rw [Function.update_of_ne same, setting, Function.update_of_ne otherName, setting]

/-- A change of the result can be made after the last reading. -/
theorem map_reading {α β γ : Type} (first : Except ConfigFault α)
    (next : α → Except ConfigFault β) (change : β → γ) :
    (first.bind next).map change = first.bind fun value => (next value).map change :=
  map_bind change first next

/-- Another value of the filter setting changes this one field of what is loaded, and no
fault. -/
theorem load_update_advancedFilters (lookup : String → Option String) (value : Option String) :
    load (Function.update lookup Variable.advancedFilters.name value) =
      (load lookup).map fun config =>
        { config with advancedFilters := value.filter (· ≠ "") } := by
  simp only [load_eq_bind, map_reading, fieldOf, setting_update]
  rfl

end Config

/-! ## The hub -/

namespace Relay

variable {filter : Admission.Filter}

theorem kept_judge_of_disabled (disabled : filter.enabled = false) (received : List Change)
    (change : Change) : ((Stage.ofFilter filter).judge received change).kept = some change := by
  simp [Stage.ofFilter, Admission.Filter.sends_of_disabled disabled change]

/-- A filter that is off keeps every change, whatever it received before. -/
theorem kept_processAll_of_disabled (disabled : filter.enabled = false) (received : List Change)
    (changes : List Change) :
    (Chain.processAll [⟨.ofFilter filter, received⟩] changes).2.filterMap (·.kept) = changes := by
  induction changes generalizing received with
  | nil => rfl
  | cons change changes ih =>
      simp [Chain.processAll, Chain.process, kept_judge_of_disabled disabled, ih]

/-- A run over some changes gave all of them to every emitter, in their order. -/
structure ForwardsAll (emitters : List Emitter) (changes : List Change) (report : Report) :
    Prop where
  stats : report.runner.stats = ⟨changes.length, changes.length, 0⟩
  /-- Every emitter was given every change as it is, on its own. -/
  received : report.runner.emitters = emitters.map fun emitter => ⟨emitter, batches changes⟩
  /-- The counts are the result, unless an emitter fails when it is shut down. -/
  succeeds : report.result = .ok ⟨changes.length, changes.length, 0⟩ ↔
    ∀ emitter ∈ emitters, succeeded (emitter.shutdown (batches changes)).result = true

theorem Hub.forwardsAll_of_disabled (disabled : filter.enabled = false) (capacity : Nat)
    (emitters : List Emitter) (changes : List Change) :
    ForwardsAll emitters changes ((Hub.mk capacity [.ofFilter filter] emitters).run changes) := by
  have served := fanOut_run (Hub.mk capacity [.ofFilter filter] emitters) changes
  have all : (Hub.mk capacity [.ofFilter filter] emitters).kept changes = changes :=
    kept_processAll_of_disabled disabled [] changes
  have stats := served.stats_eq
  rw [all, Nat.sub_self] at stats
  constructor
  · exact stats
  · rw [served.received, all]
  · have succeeds := served.succeeds
    rwa [stats, all] at succeeds

end Relay

/-! ## From the setting to the emitters -/

open Admission Relay

/-- For every lookup that loads: filtering is on exactly for the spellings of true, a warning is
logged exactly for a text that is no truth value, and while filtering is off a hub with the
filter as its only stage gives everything to every emitter.  With another value of the setting
the lookup still loads, or still has the same fault. -/
theorem mistaken_filter_setting_sends_everything (lookup : String → Option String) :
    (∀ value, Config.load (Function.update lookup Variable.advancedFilters.name value) =
      (Config.load lookup).map fun config =>
        { config with advancedFilters := value.filter (· ≠ "") }) ∧
      ∀ config, Config.load lookup = .ok config →
        ((Filter.ofSetting config.advancedFilters).1.enabled = true ↔
          ∃ text ∈ Filter.trueTexts, lookup Variable.advancedFilters.name = some text) ∧
        ((∃ entry ∈ (Filter.ofSetting config.advancedFilters).2, entry.level = .warn) ↔
          ∃ text, lookup Variable.advancedFilters.name = some text ∧ text ≠ "" ∧
            text ∉ Filter.trueTexts ∧ text ∉ Filter.falseTexts) ∧
        ((Filter.ofSetting config.advancedFilters).1.enabled = false →
          ∀ capacity emitters changes,
            let stages := [Stage.ofFilter (Filter.ofSetting config.advancedFilters).1]
            ForwardsAll emitters changes ((Hub.mk capacity stages emitters).run changes)) := by
  constructor
  · intro value
    exact Config.load_update_advancedFilters lookup value
  · intro config loaded
    rw [Config.advancedFilters_eq loaded, Config.ofSetting_setting]
    refine ⟨Filter.enabled_ofSetting_iff, Filter.warns_ofSetting_iff, ?_⟩
    intro disabled capacity emitters changes
    exact Hub.forwardsAll_of_disabled disabled capacity emitters changes

/-- Settings in which the flag is no truth value. -/
def mistakenSettings : String → Option String
  | "ADVANCED_FILTERS" => some "yes please"
  | _ => none

/-- The flag is off, with a warning, and a change that a filter drops is forwarded too. -/
theorem mistaken_filter_setting_sends_everything_mistakenSettings :
    ∃ config, Config.load mistakenSettings = .ok config ∧
      (∃ entry ∈ (Filter.ofSetting config.advancedFilters).2, entry.level = .warn) ∧
      (Filter.ofSetting config.advancedFilters).1.enabled = false ∧
      ForwardsAll [sampleEmitter true] sampleChanges
        ((Hub.mk 16 [.ofFilter (Filter.ofSetting config.advancedFilters).1]
          [sampleEmitter true]).run sampleChanges) := by
  have loaded : Config.load mistakenSettings =
      .ok { Config.default with advancedFilters := some "yes please" } := by decide +kernel
  rcases (mistaken_filter_setting_sends_everything mistakenSettings).2 _ loaded with
    ⟨-, warns, forwards⟩
  have disabled : (Filter.ofSetting (some "yes please")).1.enabled = false := by decide
  exact ⟨_, loaded, warns.mpr ⟨"yes please", rfl, by decide⟩, disabled,
    forwards disabled 16 [sampleEmitter true] sampleChanges⟩

end ChangeRelay
