import ChangeRelay.Relay.Emitter

/-!
# Webhooks

Changes are posted as JSON to an address.  Each batch is one request, and an
empty batch is none.
-/

namespace ChangeRelay.Sink

open Network Relay

/-- Where changes are posted, and how. -/
structure Webhook where
  url : String
  /-- Where health is looked after, if not at the same address. -/
  healthUrl : Option String
  headers : List (String × String)
deriving DecidableEq, Repr

namespace Webhook

/-- The webhook at an address. -/
def ofUrl (url : String) : Webhook :=
  ⟨url, none, []⟩

/-- A webhook whose health is looked after at an address. -/
def withHealthUrl (url : String) (webhook : Webhook) : Webhook :=
  { webhook with healthUrl := some url }

/-- A webhook with a value for a header.  A value that was set for the same
spelling of the name is replaced. -/
def withHeader (name value : String) (webhook : Webhook) : Webhook :=
  { webhook with
    headers := webhook.headers.filter (fun header => header.1 ≠ name) ++ [(name, value)] }

/-! ## Posting -/

/-- A change as it is posted: its own JSON form, with its name and namespace. -/
def entry (change : Change) : Json :=
  Json.object <|
    [("kind", .str change.kind), ("reason", .str change.reason.label),
      ("namespace", .str change.namespaceName), ("name", .str change.name),
      ("object", change.current.toJson)]
      ++ (change.previous.map fun previous => ("old_object", previous.toJson)).toList

/-- A batch as it is posted. -/
def payload (batch : List Change) : Json :=
  .obj [("events", .arr (batch.map entry))]

/-- The emission of a batch whose request was built. -/
def deliver (transport : Http.Transport) (webhook : Webhook) (batch : List Change)
    (request : Http.Request) : Emission :=
  match Http.send transport request with
  | .ok response =>
      let status := Http.statusText response.status
      if response.isSuccess then
        ⟨.ok (), "", [request],
          [Log.debug "Webhook delivered"
            [("url", webhook.url), ("count", toString batch.length), ("status", status)]]⟩
      else
        ⟨.error (.send ("Webhook returned " ++ status ++ ": " ++ response.body)), "", [request],
          [Log.error "Webhook request failed"
            [("url", webhook.url), ("status", status), ("body", response.body)]]⟩
  | .error failure => unreachable webhook [request] failure
where
  /-- The emission of a batch that did not reach the sink. -/
  unreachable (webhook : Webhook) (sent : List Http.Request) (failure : Http.Failure) :
      Emission :=
    ⟨.error (.connection ("Failed to connect to " ++ webhook.url ++ ": " ++ failure.message)),
      "", sent,
      [Log.error "Webhook connection failed"
        [("url", webhook.url), ("error", failure.message)]]⟩

/-- What is done with a batch. -/
def emit (transport : Http.Transport) (webhook : Webhook) (batch : List Change) : Emission :=
  if batch.isEmpty then .silent
  else
    match Http.build transport .post webhook.url webhook.headers (some (payload batch)) with
    | .ok request => deliver transport webhook batch request
    | .error failure => deliver.unreachable webhook [] failure

/-! ## Health -/

/-- What asking for the head of the address shows: the sink is healthy if it
answers, and does not answer that it is at fault itself. -/
def checkHealth (transport : Http.Transport) (webhook : Webhook) : HealthCheck :=
  let url := webhook.healthUrl.getD webhook.url
  let failed (failure : Http.Failure) : Log.Entry :=
    Log.debug "Health check failed" [("url", url), ("error", failure.message)]
  match Http.build transport .head url [] none with
  | .error failure => ⟨false, [], [failed failure]⟩
  | .ok request =>
      match Http.send transport request with
      | .error failure => ⟨false, [request], [failed failure]⟩
      | .ok response =>
          if response.isServerError then
            ⟨false, [request],
              [Log.debug "Health check returned server error"
                [("url", url), ("status", Http.statusText response.status)]]⟩
          else ⟨true, [request], []⟩

/-- The emitter that posts over a network. -/
def emitter (transport : Http.Transport) (webhook : Webhook) : Emitter where
  name := "webhook"
  emit _ batch := webhook.emit transport batch
  health := webhook.checkHealth transport
  shutdown _ := .silent

end Webhook

end ChangeRelay.Sink
