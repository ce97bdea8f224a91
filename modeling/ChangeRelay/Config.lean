import ChangeRelay.Config.ResourceList
import ChangeRelay.Config.Variable
import ChangeRelay.Network.SocketAddress

/-!
# Configuration

A configuration is loaded from variables.  An empty value is the same as none.
Each field has its own variable and a default value; four of them can be at
fault, and the first fault in their fixed order is the one that is reported.

`toVariables` writes a configuration back as variables.
-/

namespace ChangeRelay

open Network (SocketAddress)

/-- How log lines are laid out. -/
inductive LogFormat where
  | json
  | pretty
deriving DecidableEq, Repr

/-- The name of a layout. -/
def LogFormat.name : LogFormat → String
  | json => "json"
  | pretty => "pretty"

/-- The settings of the relay. -/
structure Config where
  advancedFilters : Option String
  namespaceName : Option String
  labelSelector : Option String
  resources : List Resource
  webhookUrl : Option String
  channelCapacity : Nat
  metricsAddress : SocketAddress
  logLevel : String
  logFormat : LogFormat
deriving DecidableEq

namespace Config

/-- The configuration when nothing is set. -/
def default : Config where
  advancedFilters := none
  namespaceName := none
  labelSelector := none
  resources := [.pods, .jobs, .events]
  webhookUrl := none
  channelCapacity := 1024
  metricsAddress := .v4 ⟨0, 0, 0, 0⟩ 9090
  logLevel := "info"
  logFormat := .pretty

/-! ## Reading single settings -/

/-- A channel capacity: a positive number of at most 64 bits. -/
def readCapacity (text : String) : Except ConfigFault Nat :=
  match Text.readUnsigned Text.largest64 text with
  | .error fault => .error (.capacityUnreadable fault)
  | .ok capacity => if capacity = 0 then .error .capacityZero else .ok capacity

/-- A metrics address. -/
def readMetricsAddress (text : String) : Except ConfigFault SocketAddress :=
  match SocketAddress.ofText? text with
  | none => .error .metricsAddress
  | some address => .ok address

/-- A log format, in any letter case. -/
def readLogFormat (text : String) : Except ConfigFault LogFormat :=
  let folded := Text.lower text
  if folded = "json" then .ok .json
  else if folded = "pretty" then .ok .pretty
  else .error (.logFormat folded)

/-- A setting that is read if it is there. -/
def readOr {α : Type} (unset : α) (read : String → Except ConfigFault α) :
    Option String → Except ConfigFault α
  | none => .ok unset
  | some text => read text

/-! ## Loading -/

/-- The value of a variable, unless it is empty. -/
def setting (lookup : String → Option String) (which : Variable) : Option String :=
  (lookup which.name).filter (· ≠ "")

/-- The configuration in the variables that a lookup finds. -/
def load (lookup : String → Option String) : Except ConfigFault Config := do
  let get := setting lookup
  let resources ← readOr default.resources readResources (get .resources)
  let channelCapacity ← readOr default.channelCapacity readCapacity (get .channelCapacity)
  let metricsAddress ← readOr default.metricsAddress readMetricsAddress (get .metricsAddress)
  let logFormat ← readOr default.logFormat readLogFormat (get .logFormat)
  return {
    advancedFilters := get .advancedFilters
    namespaceName := get .namespaceName
    labelSelector := get .labelSelector
    resources
    webhookUrl := get .webhookUrl
    channelCapacity
    metricsAddress
    logLevel := (get .logLevel).getD default.logLevel
    logFormat }

/-! ## Writing -/

/-- The value of a variable that stands for a field of the configuration. -/
def value? (config : Config) : Variable → Option String
  | .advancedFilters => config.advancedFilters
  | .namespaceName => config.namespaceName
  | .labelSelector => config.labelSelector
  | .resources => some (resourcesText config.resources)
  | .webhookUrl => config.webhookUrl
  | .channelCapacity => some (toString config.channelCapacity)
  | .metricsAddress => some config.metricsAddress.text
  | .logLevel => some config.logLevel
  | .logFormat => some config.logFormat.name

/-- The variables that stand for a configuration. -/
def toVariables (config : Config) : List (String × String) :=
  Variable.all.filterMap fun which =>
    (config.value? which).map fun value => (which.name, value)

end Config

end ChangeRelay
