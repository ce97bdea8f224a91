import ChangeRelay.Config.Fault
import ChangeRelay.Resource
import ChangeRelay.Text.LowerCase
import ChangeRelay.Text.Parts

/-!
# Lists of resources

A resource list is written with commas.  Blank segments do not count, neither
do letter case and the white space around a name, and most resources may be
named in the singular.  Every resource is watched once, so a resource that is
named again is passed over.
-/

namespace ChangeRelay.Config

/-- The form in which a resource name is looked up. -/
def foldName (text : String) : String :=
  Text.lower (Text.trim text)

/-- The resource with this name, in the plural or in the singular. -/
def resourceNamed? (name : String) : Option Resource :=
  match name with
  | "pods" | "pod" => some .pods
  | "jobs" | "job" => some .jobs
  | "events" | "event" => some .events
  | "events.k8s.io" => some .eventsV1
  | "deployments" | "deployment" => some .deployments
  | "daemonsets" | "daemonset" => some .daemonSets
  | "statefulsets" | "statefulset" => some .statefulSets
  | "services" | "service" => some .services
  | "nodes" | "node" => some .nodes
  | _ => none

/-- The resource that a text names. -/
def readResource (text : String) : Except ConfigFault Resource :=
  match resourceNamed? (foldName text) with
  | some resource => .ok resource
  | none => .error (.unknownResource (foldName text))

/-- Whether a text is nothing but white space. -/
def isBlankText (text : String) : Bool :=
  text.toList.all Text.isBlank

/-- The segments of a list that are not blank. -/
def namedSegments (text : String) : List String :=
  (Text.split ',' text).filter fun segment => !isBlankText segment

/-- A list without the later occurrences of its members. -/
def firstOccurrences (resources : List Resource) : List Resource :=
  resources.foldl (fun kept resource => if resource ∈ kept then kept else kept ++ [resource]) []

/-- The resources that a list names, in the order in which they are first
named. -/
def readResources (text : String) : Except ConfigFault (List Resource) := do
  let named ← (namedSegments text).mapM readResource
  let resources := firstOccurrences named
  if resources.isEmpty then
    throw .noResources
  else if .events ∈ resources ∧ .eventsV1 ∈ resources then
    throw .conflictingEvents
  else
    return resources

/-- The list that names these resources. -/
def resourcesText (resources : List Resource) : String :=
  String.intercalate "," (resources.map Resource.name)

end ChangeRelay.Config
