import ChangeRelay.Proofs.Config.Capacity
import ChangeRelay.Proofs.Config.Rewording
import ChangeRelay.Proofs.Network.SocketAddress

/-!
# Configurations are restored from their variables

A configuration that was loaded is written as variables, and loading these variables
gives the same configuration.  Every variable that is written holds a text that is not
empty and is read as the value of its field; a variable that is left out stands for the
default value of its field.
-/

namespace ChangeRelay.Config

/-! ## Written variables -/

/-- The lookup that finds what is written in a list of settings. -/
def found (settings : List (String × String)) (name : String) : Option String :=
  settings.lookup name

variable {lookup : String → Option String} {config : Config} {which : Variable}

/-- Names of variables differ, so each variable is found under its own name. -/
theorem lookup_filterMap_value? (config : Config) (which : Variable) (order : List Variable) :
    (order.filterMap fun other => (config.value? other).map fun value => (other.name, value)).lookup
        which.name =
      if which ∈ order then config.value? which else none := by
  induction order with
  | nil => rfl
  | cons first rest ih =>
      by_cases here : which = first
      · subst here
        cases value : config.value? which with
        | none => simp [value, ih]
        | some text => simp [value]
      · have otherName : (which.name == first.name) = false := by
          rw [beq_eq_false_iff_ne]
          exact fun same => here (Variable.name_injective same)
        cases value : config.value? first with
        | none => simp [value, ih, here]
        | some text => simp [value, ih, here, List.lookup_cons, otherName]

theorem found_toVariables (config : Config) (which : Variable) :
    found config.toVariables which.name = config.value? which := by
  have known : which ∈ Variable.all := by cases which <;> decide
  rw [found, toVariables, lookup_filterMap_value?, if_pos known]

/-- A text that is written is read.  No variable with a text of its own reads the empty one. -/
theorem fieldOf_written {text : String} {value : which.Field}
    (written : config.value? which = some text) (reads : read which text = .ok value)
    (refusesEmpty : read which "" ≠ .ok value) :
    fieldOf (found config.toVariables) which = .ok value := by
  have nonempty : text ≠ "" := by
    rintro rfl
    exact refusesEmpty reads
  have sets : Sets (found config.toVariables) which text :=
    ⟨(found_toVariables config which).trans written, nonempty⟩
  rw [fieldOf_of_sets sets, reads]

/-- An optional text is left out when there is none, and taken as it is otherwise. -/
theorem optional_written {value : Option String} (written : config.value? which = value)
    (nonempty : value ≠ some "") :
    readOr none (fun text => .ok (some text)) (setting (found config.toVariables) which) =
      .ok value := by
  have set : setting (found config.toVariables) which = value := by
    rw [setting, found_toVariables, written]
    cases value with
    | none => rfl
    | some text => simpa [Option.filter] using nonempty
  rw [set, readOr_none_ok_some]

/-! ## Resource lists -/

theorem names_name (resource : Resource) : Names resource.name resource := by
  have folded : Text.lower (Text.trim resource.name) = resource.name := by
    cases resource <;> decide +kernel
  exact names_iff.mpr (.inl folded)

theorem firstOccurrences_of_nodup {resources : List Resource} (distinct : resources.Nodup) :
    firstOccurrences resources = resources := by
  induction resources using List.reverseRecOn with
  | nil => rfl
  | append_singleton resources last ih =>
      have front := (List.nodup_append.mp distinct).1
      have new : last ∉ resources := by
        intro member
        have apart := (List.nodup_append.mp distinct).2.2
        exact apart last member last (List.mem_singleton_self last) rfl
      rw [firstOccurrences_concat, ih front, if_neg new]

theorem namedSegments_resourcesText {resources : List Resource} (some : resources ≠ []) :
    namedSegments (resourcesText resources) = resources.map Resource.name := by
  have noComma : ∀ name ∈ resources.map Resource.name, ',' ∉ name.toList := by
    intro name member
    rcases List.mem_map.mp member with ⟨resource, -, rfl⟩
    cases resource <;> decide
  have cut : Text.split ',' (resourcesText resources) = resources.map Resource.name :=
    Text.split_intercalate (by simpa using some) noComma
  rw [namedSegments, cut, List.filter_eq_self]
  intro name member
  rcases List.mem_map.mp member with ⟨resource, -, rfl⟩
  have notBlank := (names_name resource).not_blank
  rw [← isBlankText_iff] at notBlank
  simpa using notBlank

theorem forall₂_names_map_name (resources : List Resource) :
    List.Forall₂ Names (resources.map Resource.name) resources := by
  induction resources with
  | nil => exact .nil
  | cons resource resources ih => exact .cons (names_name resource) ih

/-- A list without repetitions and without the conflict is read back. -/
theorem readResources_resourcesText {resources : List Resource} (some : resources ≠ [])
    (distinct : resources.Nodup) (compatible : ¬ (.events ∈ resources ∧ .eventsV1 ∈ resources)) :
    readResources (resourcesText resources) = .ok resources := by
  have names := forall₂_names_map_name resources
  rw [← namedSegments_resourcesText some] at names
  rw [readResources_of_names names, if_neg some, if_neg compatible, ← firstOccurrences_eq_eraseDups,
    firstOccurrences_of_nodup distinct]

theorem readResources_resourcesText_of_accepted {text : String} {resources : List Resource}
    (accepted : readResources text = .ok resources) :
    readResources (resourcesText resources) = .ok resources := by
  rcases readResources_eq_ok_iff.mp accepted with ⟨-, rfl, some, compatible⟩
  refine readResources_resourcesText some ?_ compatible
  rw [← firstOccurrences_eq_eraseDups]
  exact (firstOccurrences_spec _).distinct

/-! ## Whole configurations -/

/-- The resources of a loaded configuration are read back, also if they are the default. -/
theorem readResources_resourcesText_of_loaded (loaded : load lookup = .ok config) :
    readResources (resourcesText config.resources) = .ok config.resources := by
  by_cases set : ∃ text, Sets lookup .resources text
  · rcases set with ⟨text, sets⟩
    exact readResources_resourcesText_of_accepted (read_eq_iff.mpr (reads_field loaded sets))
  · have unset : config.resources = default.resources :=
      field_eq_default loaded (not_exists.mp set)
    rw [unset]
    exact readResources_resourcesText (by decide) (by decide) (by decide)

theorem logLevel_ne_empty (loaded : load lookup = .ok config) : config.logLevel ≠ "" := by
  have level := load_eq_ok_iff.mp loaded .logLevel
  rw [fieldOf_logLevel] at level
  have same : (setting lookup .logLevel).getD default.logLevel = config.logLevel :=
    Except.ok.inj level
  rw [← same]
  cases set : setting lookup .logLevel with
  | none => decide
  | some text => exact (setting_eq_some_iff.mp set).2

theorem readLogFormat_name (format : LogFormat) : readLogFormat format.name = .ok format := by
  cases format <;> decide +kernel

/-- A loaded configuration is restored from its variables. -/
theorem load_found_toVariables (loaded : load lookup = .ok config) :
    load (found config.toVariables) = .ok config := by
  rcases text_ne_empty loaded with ⟨filters, namespaceName, selector, url⟩
  rw [load_eq_ok_iff]
  intro which
  cases which with
  | advancedFilters => exact optional_written rfl filters
  | namespaceName => exact optional_written rfl namespaceName
  | labelSelector => exact optional_written rfl selector
  | webhookUrl => exact optional_written rfl url
  | resources =>
      exact fieldOf_written rfl (readResources_resourcesText_of_loaded loaded) nofun
  | channelCapacity =>
      rcases channelCapacity_mem_range loaded with ⟨positive, fits⟩
      have spelled := Text.readUnsigned_toString fits
      exact fieldOf_written rfl (read_eq_iff.mpr (.capacity spelled (Nat.ne_of_gt positive))) nofun
  | metricsAddress =>
      have spelled := Network.SocketAddress.ofText?_text config.metricsAddress
      exact fieldOf_written rfl (read_eq_iff.mpr (.metricsAddress spelled)) nofun
  | logLevel =>
      have refusesEmpty : read .logLevel "" ≠ .ok config.logLevel := by
        intro same
        exact logLevel_ne_empty loaded (Except.ok.inj same).symm
      exact fieldOf_written rfl rfl refusesEmpty
  | logFormat =>
      exact fieldOf_written rfl (readLogFormat_name config.logFormat) nofun

/-- Every configuration that is loaded is restored from the variables that are written
for it, and every resource list that is accepted is restored from its text. -/
theorem loaded_configuration_is_restored :
    (∀ lookup config, load lookup = .ok config → load (found config.toVariables) = .ok config) ∧
      ∀ text resources, readResources text = .ok resources →
        readResources (resourcesText resources) = .ok resources :=
  ⟨fun _ _ => load_found_toVariables, fun _ _ => readResources_resourcesText_of_accepted⟩

/-- Settings with an address of version 6 and a list in another spelling. -/
def spelledSettings : String → Option String
  | "KUBEWATCH_RESOURCES" => some "Events.K8s.io, deployment,pods,pod"
  | "KUBEWATCH_CHANNEL_CAPACITY" => some "+0064"
  | "KUBEWATCH_METRICS_ADDR" => some "[0:0:1::FF%7]:009090"
  | "KUBEWATCH_LOG_FORMAT" => some "JSON"
  | _ => none

/-- What is loaded from them. -/
def spelledConfig : Config :=
  { default with
    resources := [.eventsV1, .deployments, .pods]
    channelCapacity := 64
    metricsAddress := .v6 ⟨[0, 0, 1, 0, 0, 0, 0, 255], rfl⟩ 7 9090
    logFormat := .json }

theorem loaded_configuration_is_restored_spelledConfig :
    load spelledSettings = .ok spelledConfig ∧
      load (found spelledConfig.toVariables) = .ok spelledConfig ∧
      readResources "Events.K8s.io, deployment,pods,pod" = .ok spelledConfig.resources ∧
      readResources (resourcesText spelledConfig.resources) = .ok spelledConfig.resources := by
  have loaded : load spelledSettings = .ok spelledConfig := by decide +kernel
  have accepted : readResources "Events.K8s.io, deployment,pods,pod" =
      .ok spelledConfig.resources := by decide +kernel
  rcases loaded_configuration_is_restored with ⟨restored, lists⟩
  exact ⟨loaded, restored _ _ loaded, accepted, lists _ _ accepted⟩

end ChangeRelay.Config
