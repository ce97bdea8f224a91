import ChangeRelay.Catalog.Meta

/-!
# Event objects

The two kinds of event objects: those of the core API and those of the events
API.
-/

namespace ChangeRelay.Catalog

open Schema

/-- The `EventSeries` record. -/
def coreEventSeries : Shape :=
  .ofRows [
    optional "count" .int32,
    optional "lastObservedTime" (.time .microseconds)]

/-- The `EventSource` record. -/
def eventSource : Shape :=
  .ofRows [
    optional "component" .text,
    optional "host" .text]

/-- The `Event` object of `v1`. -/
def coreEvent : Shape :=
  .ofRows [
    optional "action" .text,
    constant "apiVersion" "v1",
    optional "count" .int32,
    optional "eventTime" (.time .microseconds),
    optional "firstTimestamp" (.time .seconds),
    defaulted "involvedObject" objectReference,
    constant "kind" "Event",
    optional "lastTimestamp" (.time .seconds),
    optional "message" .text,
    defaulted "metadata" objectMeta,
    optional "reason" .text,
    optional "related" objectReference,
    optional "reportingComponent" .text,
    optional "reportingInstance" .text,
    optional "series" coreEventSeries,
    optional "source" eventSource,
    optional "type" .text]

/-- The `events.EventSeries` record. -/
def eventsV1EventSeries : Shape :=
  .ofRows [
    defaulted "count" .int32,
    required "lastObservedTime" (.time .microseconds)]

/-- The `Event` object of `events.k8s.io/v1`. -/
def eventsV1Event : Shape :=
  .ofRows [
    optional "action" .text,
    constant "apiVersion" "events.k8s.io/v1",
    optional "deprecatedCount" .int32,
    optional "deprecatedFirstTimestamp" (.time .seconds),
    optional "deprecatedLastTimestamp" (.time .seconds),
    optional "deprecatedSource" eventSource,
    optional "eventTime" (.time .microseconds),
    constant "kind" "Event",
    defaulted "metadata" objectMeta,
    optional "note" .text,
    optional "reason" .text,
    optional "regarding" objectReference,
    optional "related" objectReference,
    optional "reportingController" .text,
    optional "reportingInstance" .text,
    optional "series" eventsV1EventSeries,
    optional "type" .text]

end ChangeRelay.Catalog
