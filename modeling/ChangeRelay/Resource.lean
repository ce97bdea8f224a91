import ChangeRelay.Catalog.Event
import ChangeRelay.Catalog.Job
import ChangeRelay.Catalog.Node
import ChangeRelay.Catalog.Service
import ChangeRelay.Catalog.Workload

/-!
# Watched resources

The types of cluster objects that can be watched.  Event objects are served by
two API groups, and each group is a resource of its own.
-/

namespace ChangeRelay

/-- A resource type that can be watched. -/
inductive Resource where
  | pods
  | jobs
  | events
  | eventsV1
  | deployments
  | daemonSets
  | statefulSets
  | services
  | nodes
deriving DecidableEq, Repr

namespace Resource

/-- The name of a resource in settings and errors. -/
def name : Resource → String
  | pods => "pods"
  | jobs => "jobs"
  | events => "events"
  | eventsV1 => "events.k8s.io"
  | deployments => "deployments"
  | daemonSets => "daemonsets"
  | statefulSets => "statefulsets"
  | services => "services"
  | nodes => "nodes"

/-- The kind that objects of a resource carry. -/
def kind : Resource → String
  | pods => "Pod"
  | jobs => "Job"
  | events | eventsV1 => "Event"
  | deployments => "Deployment"
  | daemonSets => "DaemonSet"
  | statefulSets => "StatefulSet"
  | services => "Service"
  | nodes => "Node"

/-- The API group and version that serves a resource. -/
def apiVersion : Resource → String
  | pods | events | services | nodes => "v1"
  | jobs => "batch/v1"
  | eventsV1 => "events.k8s.io/v1"
  | deployments | daemonSets | statefulSets => "apps/v1"

/-- The name of a resource in the paths of the API. -/
def plural : Resource → String
  | eventsV1 => "events"
  | resource => resource.name

/-- Whether objects of a resource live in namespaces. -/
def isNamespaced : Resource → Bool
  | nodes => false
  | _ => true

/-- The shape of the objects of a resource. -/
def shape : Resource → Schema.Shape
  | pods => Catalog.pod
  | jobs => Catalog.job
  | events => Catalog.coreEvent
  | eventsV1 => Catalog.eventsV1Event
  | deployments => Catalog.deployment
  | daemonSets => Catalog.daemonSet
  | statefulSets => Catalog.statefulSet
  | services => Catalog.service
  | nodes => Catalog.node

/-- Every resource. -/
def all : List Resource :=
  [pods, jobs, events, eventsV1, deployments, daemonSets, statefulSets, services, nodes]

theorem mem_all (resource : Resource) : resource ∈ all := by
  cases resource <;> decide

end Resource

end ChangeRelay
