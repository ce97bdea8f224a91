import ChangeRelay.Config
import ChangeRelay.Proofs.Config.ResourceList

/-!
# Single settings

Every field of a configuration has a variable of its own, so the fields can be
indexed by the variables.  What a variable comes to is then one relation between
its text and the value of its field or a fault, and reading computes it.
-/

namespace ChangeRelay

open Network (SocketAddress)

/-- The values of the field that a variable sets. -/
def Variable.Field : Variable → Type
  | .advancedFilters | .namespaceName | .labelSelector | .webhookUrl => Option String
  | .resources => List Resource
  | .channelCapacity => Nat
  | .metricsAddress => SocketAddress
  | .logLevel => String
  | .logFormat => LogFormat

namespace Config

/-- The field that a variable sets. -/
def field (config : Config) : (which : Variable) → which.Field
  | .advancedFilters => config.advancedFilters
  | .namespaceName => config.namespaceName
  | .labelSelector => config.labelSelector
  | .resources => config.resources
  | .webhookUrl => config.webhookUrl
  | .channelCapacity => config.channelCapacity
  | .metricsAddress => config.metricsAddress
  | .logLevel => config.logLevel
  | .logFormat => config.logFormat

/-- What comes of the text of a variable. -/
inductive Reads : (which : Variable) → String → Except ConfigFault which.Field → Prop where
  | advancedFilters (text : String) : Reads .advancedFilters text (.ok (some text))
  | namespaceName (text : String) : Reads .namespaceName text (.ok (some text))
  | labelSelector (text : String) : Reads .labelSelector text (.ok (some text))
  | webhookUrl (text : String) : Reads .webhookUrl text (.ok (some text))
  | logLevel (text : String) : Reads .logLevel text (.ok text)
  | resources {text : String} {outcome : Except ConfigFault (List Resource)}
      (comes : ListOutcome text outcome) : Reads .resources text outcome
  | capacity {text : String} {capacity : Nat}
      (spelled : Text.readUnsigned Text.largest64 text = .ok capacity) (positive : capacity ≠ 0) :
      Reads .channelCapacity text (.ok capacity)
  | capacityZero {text : String} (spelled : Text.readUnsigned Text.largest64 text = .ok 0) :
      Reads .channelCapacity text (.error .capacityZero)
  | capacityUnreadable {text : String} {fault : Text.UnsignedFault}
      (unreadable : Text.readUnsigned Text.largest64 text = .error fault) :
      Reads .channelCapacity text (.error (.capacityUnreadable fault))
  | metricsAddress {text : String} {address : SocketAddress}
      (spelled : SocketAddress.ofText? text = some address) :
      Reads .metricsAddress text (.ok address)
  | metricsAddressUnreadable {text : String} (unreadable : SocketAddress.ofText? text = none) :
      Reads .metricsAddress text (.error .metricsAddress)
  | logFormat {text : String} (format : LogFormat) (spelled : Text.lower text = format.name) :
      Reads .logFormat text (.ok format)
  | logFormatUnknown {text : String}
      (unknown : ∀ format : LogFormat, Text.lower text ≠ format.name) :
      Reads .logFormat text (.error (.logFormat (Text.lower text)))

/-- The value of the field that the text of a variable sets, or a fault. -/
def read : (which : Variable) → String → Except ConfigFault which.Field
  | .advancedFilters, text | .namespaceName, text | .labelSelector, text | .webhookUrl, text =>
      .ok (some text)
  | .logLevel, text => .ok text
  | .resources, text => readResources text
  | .channelCapacity, text => readCapacity text
  | .metricsAddress, text => readMetricsAddress text
  | .logFormat, text => readLogFormat text

theorem readCapacity_reads (text : String) : Reads .channelCapacity text (readCapacity text) := by
  rw [readCapacity]
  cases spelled : Text.readUnsigned Text.largest64 text with
  | error fault => exact .capacityUnreadable spelled
  | ok capacity =>
      by_cases zero : capacity = 0
      · subst zero
        exact .capacityZero spelled
      · simp only [if_neg zero]
        exact .capacity spelled zero

theorem readMetricsAddress_reads (text : String) :
    Reads .metricsAddress text (readMetricsAddress text) := by
  rw [readMetricsAddress]
  cases spelled : SocketAddress.ofText? text with
  | none => exact .metricsAddressUnreadable spelled
  | some address => exact .metricsAddress spelled

theorem readLogFormat_reads (text : String) : Reads .logFormat text (readLogFormat text) := by
  simp only [readLogFormat]
  split
  next json => exact .logFormat .json json
  next notJson =>
    split
    next pretty => exact .logFormat .pretty pretty
    next notPretty =>
      refine .logFormatUnknown fun format => ?_
      cases format with
      | json => exact notJson
      | pretty => exact notPretty

theorem read_reads (which : Variable) (text : String) : Reads which text (read which text) := by
  cases which with
  | advancedFilters => exact .advancedFilters text
  | namespaceName => exact .namespaceName text
  | labelSelector => exact .labelSelector text
  | webhookUrl => exact .webhookUrl text
  | logLevel => exact .logLevel text
  | resources => exact .resources ((readResources_eq_iff text _).mp rfl)
  | channelCapacity => exact readCapacity_reads text
  | metricsAddress => exact readMetricsAddress_reads text
  | logFormat => exact readLogFormat_reads text

theorem Reads.read_eq {which : Variable} {text : String}
    {outcome : Except ConfigFault which.Field} (reads : Reads which text outcome) :
    read which text = outcome := by
  cases reads with
  | advancedFilters | namespaceName | labelSelector | webhookUrl | logLevel => rfl
  | resources comes => exact (readResources_eq_iff _ _).mpr comes
  | capacity spelled positive =>
      change readCapacity text = .ok _
      simp [readCapacity, spelled, positive]
  | capacityZero spelled =>
      change readCapacity text = .error _
      simp [readCapacity, spelled]
  | capacityUnreadable unreadable =>
      change readCapacity text = .error _
      simp [readCapacity, unreadable]
  | metricsAddress spelled =>
      change readMetricsAddress text = .ok _
      simp [readMetricsAddress, spelled]
  | metricsAddressUnreadable unreadable =>
      change readMetricsAddress text = .error _
      simp [readMetricsAddress, unreadable]
  | logFormat format spelled =>
      change readLogFormat text = .ok _
      cases format <;> simp [readLogFormat, spelled, LogFormat.name]
  | logFormatUnknown unknown =>
      change readLogFormat text = .error _
      have notJson : Text.lower text ≠ "json" := unknown .json
      have notPretty : Text.lower text ≠ "pretty" := unknown .pretty
      simp [readLogFormat, notJson, notPretty]

/-- Reading the text of a variable comes to exactly what the text says. -/
theorem read_eq_iff {which : Variable} {text : String} {outcome : Except ConfigFault which.Field} :
    read which text = outcome ↔ Reads which text outcome := by
  constructor
  · rintro rfl
    exact read_reads which text
  · exact Reads.read_eq

end Config

end ChangeRelay
