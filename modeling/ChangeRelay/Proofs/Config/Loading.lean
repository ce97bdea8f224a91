import ChangeRelay.Proofs.Config.Setting

/-!
# Loading a configuration

Loading reads every variable on its own and puts the fields together.  So it
succeeds exactly if every variable comes to a value, each field is the value of its
own variable, and the fault of a failed loading is that of the first variable at
fault.  Only four variables can be at fault.
-/

namespace ChangeRelay.Config

/-! ## Variables that are set -/

/-- A lookup sets a variable to this text.  An empty text does not count. -/
def Sets (lookup : String → Option String) (which : Variable) (text : String) : Prop :=
  lookup which.name = some text ∧ text ≠ ""

/-- Two lookups set a variable to the same text, if they set it at all. -/
def SetsAlike (first second : String → Option String) (which : Variable) : Prop :=
  ∀ text, Sets first which text ↔ Sets second which text

/-- A text is acceptable for a variable. -/
def Accepts (which : Variable) (text : String) : Prop :=
  ∃ value, Reads which text (.ok value)

/-- A lookup does not set a variable to a text that is not acceptable. -/
def Valid (lookup : String → Option String) (which : Variable) : Prop :=
  ∀ text, Sets lookup which text → Accepts which text

/-- The variables that can be at fault, in the order in which faults are looked
for. -/
def faultOrder : List Variable :=
  [.resources, .channelCapacity, .metricsAddress, .logFormat]

/-- The first of these variables that is at fault has this fault. -/
inductive FirstFault (lookup : String → Option String) : List Variable → ConfigFault → Prop where
  | here {which : Variable} {rest : List Variable} {text : String} {fault : ConfigFault}
      (sets : Sets lookup which text) (reads : Reads which text (.error fault)) :
      FirstFault lookup (which :: rest) fault
  | later {which : Variable} {rest : List Variable} {fault : ConfigFault}
      (valid : Valid lookup which) (next : FirstFault lookup rest fault) :
      FirstFault lookup (which :: rest) fault

variable {lookup : String → Option String} {which : Variable}

theorem setting_eq_some_iff {text : String} :
    setting lookup which = some text ↔ Sets lookup which text := by
  simp [setting, Option.filter_eq_some_iff, Sets]

theorem setting_eq_none_iff :
    setting lookup which = none ↔ ∀ text, ¬ Sets lookup which text := by
  rw [Option.eq_none_iff_forall_ne_some]
  exact forall_congr' fun _ => not_congr setting_eq_some_iff

theorem SetsAlike.setting_eq {first second : String → Option String}
    (alike : SetsAlike first second which) : setting first which = setting second which := by
  ext text
  rw [setting_eq_some_iff, setting_eq_some_iff]
  exact alike text

/-! ## One variable -/

/-- What loading makes of a variable. -/
def fieldOf (lookup : String → Option String) (which : Variable) :
    Except ConfigFault which.Field :=
  readOr (default.field which) (read which) (setting lookup which)

theorem fieldOf_of_unset (unset : ∀ text, ¬ Sets lookup which text) :
    fieldOf lookup which = .ok (default.field which) := by
  rw [fieldOf, setting_eq_none_iff.mpr unset, readOr]

theorem fieldOf_of_sets {text : String} (sets : Sets lookup which text) :
    fieldOf lookup which = read which text := by
  rw [fieldOf, setting_eq_some_iff.mpr sets, readOr]

theorem fieldOf_eq_error_iff {fault : ConfigFault} :
    fieldOf lookup which = .error fault ↔
      ∃ text, Sets lookup which text ∧ Reads which text (.error fault) := by
  constructor
  · intro faulty
    cases set : setting lookup which with
    | none =>
        rw [fieldOf, set] at faulty
        cases faulty
    | some text =>
        have sets := setting_eq_some_iff.mp set
        rw [fieldOf_of_sets sets] at faulty
        exact ⟨text, sets, read_eq_iff.mp faulty⟩
  · rintro ⟨text, sets, reads⟩
    rw [fieldOf_of_sets sets]
    exact read_eq_iff.mpr reads

theorem exists_fieldOf_eq_ok_iff :
    (∃ value, fieldOf lookup which = .ok value) ↔ Valid lookup which := by
  constructor
  · rintro ⟨value, holds⟩ text sets
    rw [fieldOf_of_sets sets] at holds
    exact ⟨value, read_eq_iff.mp holds⟩
  · intro valid
    cases set : setting lookup which with
    | none => exact ⟨_, fieldOf_of_unset (setting_eq_none_iff.mp set)⟩
    | some text =>
        have sets := setting_eq_some_iff.mp set
        obtain ⟨value, reads⟩ := valid text sets
        exact ⟨value, (fieldOf_of_sets sets).trans (read_eq_iff.mpr reads)⟩

/-! ## All variables -/

/-- Configurations with the same fields are the same. -/
theorem eq_of_field_eq {first second : Config}
    (same : ∀ which, first.field which = second.field which) : first = second := by
  cases first
  cases second
  obtain rfl := same .advancedFilters
  obtain rfl := same .namespaceName
  obtain rfl := same .labelSelector
  obtain rfl := same .resources
  obtain rfl := same .webhookUrl
  obtain rfl := same .channelCapacity
  obtain rfl := same .metricsAddress
  obtain rfl := same .logLevel
  obtain rfl := same .logFormat
  rfl

/-- Loading goes through the variables that can be at fault one after another. -/
theorem load_eq_bind (lookup : String → Option String) :
    load lookup =
      (fieldOf lookup .resources).bind fun resources =>
        (fieldOf lookup .channelCapacity).bind fun channelCapacity =>
          (fieldOf lookup .metricsAddress).bind fun metricsAddress =>
            (fieldOf lookup .logFormat).bind fun logFormat =>
              .ok {
                advancedFilters := setting lookup .advancedFilters
                namespaceName := setting lookup .namespaceName
                labelSelector := setting lookup .labelSelector
                resources
                webhookUrl := setting lookup .webhookUrl
                channelCapacity
                metricsAddress
                logLevel := (setting lookup .logLevel).getD default.logLevel
                logFormat } :=
  rfl

/-- Variables that are read one after another come to the first fault among them. -/
theorem bind_of_firstFault {rest : List Variable} {fault : ConfigFault} {α : Type}
    {next : which.Field → Except ConfigFault α}
    (faulty : FirstFault lookup (which :: rest) fault)
    (onward : FirstFault lookup rest fault → ∀ value, next value = .error fault) :
    (fieldOf lookup which).bind next = .error fault := by
  cases faulty with
  | here sets reads =>
      rw [fieldOf_eq_error_iff.mpr ⟨_, sets, reads⟩]
      rfl
  | later valid faultyRest =>
      obtain ⟨value, holds⟩ := exists_fieldOf_eq_ok_iff.mpr valid
      rw [holds]
      exact onward faultyRest value

theorem load_of_firstFault {fault : ConfigFault} (faulty : FirstFault lookup faultOrder fault) :
    load lookup = .error fault := by
  rw [load_eq_bind]
  refine bind_of_firstFault faulty fun faulty _ => ?_
  refine bind_of_firstFault faulty fun faulty _ => ?_
  refine bind_of_firstFault faulty fun faulty _ => ?_
  exact bind_of_firstFault faulty nofun

/-- Either all of these variables are valid, or there is a first one at fault. -/
theorem valid_or_firstFault (lookup : String → Option String) (order : List Variable) :
    (∀ which ∈ order, Valid lookup which) ∨ ∃ fault, FirstFault lookup order fault := by
  induction order with
  | nil => exact .inl nofun
  | cons which rest ih =>
      cases read : fieldOf lookup which with
      | error fault =>
          obtain ⟨text, sets, reads⟩ := fieldOf_eq_error_iff.mp read
          exact .inr ⟨fault, .here sets reads⟩
      | ok value =>
          have valid : Valid lookup which := exists_fieldOf_eq_ok_iff.mp ⟨value, read⟩
          rcases ih with allValid | ⟨fault, faulty⟩
          · exact .inl (List.forall_mem_cons.mpr ⟨valid, allValid⟩)
          · exact .inr ⟨fault, .later valid faulty⟩

theorem fieldOf_logLevel (lookup : String → Option String) :
    fieldOf lookup .logLevel = .ok ((setting lookup .logLevel).getD default.logLevel) := by
  rw [fieldOf]
  cases setting lookup .logLevel <;> rfl

/-- A setting that is text is taken as it is. -/
theorem readOr_none_ok_some (set : Option String) :
    readOr none (fun text => .ok (some text)) set = .ok set := by
  cases set <;> rfl

theorem load_of_valid (valid : ∀ which ∈ faultOrder, Valid lookup which) :
    ∃ config, load lookup = .ok config ∧
      ∀ which, fieldOf lookup which = .ok (config.field which) := by
  simp only [faultOrder, List.forall_mem_cons, ← exists_fieldOf_eq_ok_iff] at valid
  obtain ⟨⟨resources, list⟩, ⟨capacity, number⟩, ⟨address, metrics⟩, ⟨format, logs⟩, -⟩ := valid
  rw [load_eq_bind, list, number, metrics, logs]
  refine ⟨_, rfl, fun which => ?_⟩
  cases which with
  | advancedFilters | namespaceName | labelSelector | webhookUrl => exact readOr_none_ok_some _
  | logLevel => exact fieldOf_logLevel lookup
  | resources => exact list
  | channelCapacity => exact number
  | metricsAddress => exact metrics
  | logFormat => exact logs

/-! ## What loading comes to -/

variable {other : String → Option String} {config otherConfig : Config} {fault : ConfigFault}

theorem load_eq_error_iff : load lookup = .error fault ↔ FirstFault lookup faultOrder fault := by
  constructor
  · intro failed
    rcases valid_or_firstFault lookup faultOrder with valid | ⟨first, faulty⟩
    · obtain ⟨config, loaded, -⟩ := load_of_valid valid
      cases loaded.symm.trans failed
    · cases (load_of_firstFault faulty).symm.trans failed
      exact faulty
  · exact load_of_firstFault

theorem load_eq_ok_iff :
    load lookup = .ok config ↔ ∀ which, fieldOf lookup which = .ok (config.field which) := by
  constructor
  · intro loaded
    rcases valid_or_firstFault lookup faultOrder with valid | ⟨first, faulty⟩
    · obtain ⟨config, loadedToo, fields⟩ := load_of_valid valid
      cases loadedToo.symm.trans loaded
      exact fields
    · cases (load_of_firstFault faulty).symm.trans loaded
  · intro fields
    obtain ⟨same, loaded, sameFields⟩ :=
      load_of_valid fun which _ => exists_fieldOf_eq_ok_iff.mp ⟨_, fields which⟩
    have same : same = config :=
      eq_of_field_eq fun which => Except.ok.inj ((sameFields which).symm.trans (fields which))
    rw [loaded, same]

theorem exists_load_eq_ok_iff :
    (∃ config, load lookup = .ok config) ↔ ∀ which ∈ faultOrder, Valid lookup which := by
  constructor
  · rintro ⟨config, loaded⟩ which _
    exact exists_fieldOf_eq_ok_iff.mp ⟨_, load_eq_ok_iff.mp loaded which⟩
  · intro valid
    obtain ⟨config, loaded, -⟩ := load_of_valid valid
    exact ⟨config, loaded⟩

/-- The field of a variable that is set is what its text reads as. -/
theorem reads_field (loaded : load lookup = .ok config) {text : String}
    (sets : Sets lookup which text) : Reads which text (.ok (config.field which)) := by
  have fields := load_eq_ok_iff.mp loaded which
  rw [fieldOf_of_sets sets] at fields
  exact read_eq_iff.mp fields

theorem field_eq_default (loaded : load lookup = .ok config)
    (unset : ∀ text, ¬ Sets lookup which text) : config.field which = default.field which := by
  have fields := load_eq_ok_iff.mp loaded which
  rw [fieldOf_of_unset unset] at fields
  exact (Except.ok.inj fields).symm

theorem field_eq_of_setsAlike (loaded : load lookup = .ok config)
    (otherLoaded : load other = .ok otherConfig) (alike : SetsAlike lookup other which) :
    config.field which = otherConfig.field which := by
  have fields := load_eq_ok_iff.mp loaded which
  have otherFields := load_eq_ok_iff.mp otherLoaded which
  rw [fieldOf, alike.setting_eq] at fields
  exact Except.ok.inj (fields.symm.trans otherFields)

theorem load_eq_of_setsAlike (alike : ∀ which, SetsAlike lookup other which) :
    load lookup = load other := by
  have settings : setting lookup = setting other := funext fun which => (alike which).setting_eq
  simp only [load_eq_bind, fieldOf, settings]

/-- The first fault depends only on the variables that are looked at. -/
theorem FirstFault.of_setsAlike {order : List Variable}
    (faulty : FirstFault lookup order fault)
    (alike : ∀ which ∈ order, SetsAlike lookup other which) : FirstFault other order fault := by
  induction faulty with
  | here sets reads => exact .here ((alike _ List.mem_cons_self _).mp sets) reads
  | later valid _ ih =>
      refine .later ?_ (ih fun which member => alike which (List.mem_cons_of_mem _ member))
      intro text sets
      exact valid text ((alike _ List.mem_cons_self text).mpr sets)

/-- Settings that are text are never empty. -/
theorem text_ne_empty (loaded : load lookup = .ok config) :
    config.advancedFilters ≠ some "" ∧ config.namespaceName ≠ some "" ∧
      config.labelSelector ≠ some "" ∧ config.webhookUrl ≠ some "" := by
  have nonempty : ∀ which, setting lookup which ≠ some "" :=
    fun which set => (setting_eq_some_iff.mp set).2 rfl
  have taken : ∀ {which : Variable} {value : Option String},
      readOr none (fun text => .ok (some text)) (setting lookup which) = .ok value →
        value ≠ some "" := by
    intro which value fields
    rw [readOr_none_ok_some] at fields
    exact Except.ok.inj fields ▸ nonempty which
  have fields := load_eq_ok_iff.mp loaded
  exact ⟨taken (fields .advancedFilters), taken (fields .namespaceName),
    taken (fields .labelSelector), taken (fields .webhookUrl)⟩

/-- Loading accepts exactly the lookups in which the four variables that can be at
fault are valid, and otherwise comes to the first fault among them, whatever the
other variables hold.  An empty text counts as none, and every field of what is
loaded depends on its own variable alone. -/
theorem load_accepts_exactly_valid_settings (lookup : String → Option String) :
    ((∃ config, load lookup = .ok config) ↔ ∀ which ∈ faultOrder, Valid lookup which) ∧
      (∀ fault, load lookup = .error fault ↔ FirstFault lookup faultOrder fault) ∧
      (∀ other, (∀ which, SetsAlike lookup other which) → load lookup = load other) ∧
      (∀ other fault, (∀ which ∈ faultOrder, SetsAlike lookup other which) →
        load lookup = .error fault → load other = .error fault) ∧
      ∀ config, load lookup = .ok config →
        (∀ which text, Sets lookup which text → Reads which text (.ok (config.field which))) ∧
        (∀ which, (∀ text, ¬ Sets lookup which text) →
          config.field which = default.field which) ∧
        (∀ other otherConfig which, load other = .ok otherConfig → SetsAlike lookup other which →
          config.field which = otherConfig.field which) ∧
        config.advancedFilters ≠ some "" ∧ config.namespaceName ≠ some "" ∧
          config.labelSelector ≠ some "" ∧ config.webhookUrl ≠ some "" := by
  refine ⟨exists_load_eq_ok_iff, fun fault => load_eq_error_iff,
    fun other => load_eq_of_setsAlike, ?_, ?_⟩
  · intro other fault alike failed
    exact load_eq_error_iff.mpr ((load_eq_error_iff.mp failed).of_setsAlike alike)
  · intro config loaded
    exact ⟨fun _ _ => reads_field loaded, fun _ => field_eq_default loaded,
      fun _ _ _ => field_eq_of_setsAlike loaded, text_ne_empty loaded⟩

/-- Settings in which the namespace is empty. -/
def sampleSettings : String → Option String
  | "KUBEWATCH_NAMESPACE" => some ""
  | "KUBEWATCH_RESOURCES" => some " Pods, job,,pods"
  | "KUBEWATCH_CHANNEL_CAPACITY" => some "+64"
  | "KUBEWATCH_LOG_FORMAT" => some "JSON"
  | _ => none

/-- What is loaded from them. -/
def sampleConfig : Config :=
  { default with resources := [.pods, .jobs], channelCapacity := 64, logFormat := .json }

theorem load_accepts_exactly_valid_settings_sampleSettings :
    load sampleSettings = .ok sampleConfig ∧
      Reads .channelCapacity "+64" (.ok (sampleConfig.field .channelCapacity)) ∧
      sampleConfig.field .namespaceName = default.field .namespaceName := by
  have loaded : load sampleSettings = .ok sampleConfig := by decide +kernel
  obtain ⟨fromText, fromDefault, -⟩ :=
    (load_accepts_exactly_valid_settings sampleSettings).2.2.2.2 _ loaded
  refine ⟨loaded, fromText _ _ ⟨rfl, by decide⟩, fromDefault .namespaceName ?_⟩
  rintro text ⟨found, nonempty⟩
  exact nonempty (Option.some.inj found).symm

-- Two variables are at fault, and the capacity comes first.
example :
    load (fun
      | "KUBEWATCH_CHANNEL_CAPACITY" => some "64k"
      | "KUBEWATCH_LOG_FORMAT" => some "xml"
      | _ => none) = .error (.capacityUnreadable .invalidDigit) := by
  decide +kernel

end ChangeRelay.Config
