import ChangeRelay.Log.Entry
import ChangeRelay.Metrics.Exposition
import ChangeRelay.Network.SocketAddress

/-!
# The metrics endpoint

Two paths are served: the metrics, and a sign of life.  Both can be read with
GET, and with HEAD, which leaves out the body.
-/

namespace ChangeRelay.Metrics

open Network (SocketAddress)

namespace Endpoint

/-- An answer of the endpoint. -/
structure Response where
  status : Nat
  contentType : Option String
  /-- The methods that are allowed, when the one that was used is not. -/
  allow : Option String
  body : String
deriving DecidableEq, Repr

/-- The content type and the body of a path that is served. -/
def page? (registry : Registry) (path : String) : Option (String × String) :=
  match path with
  | "/metrics" => some ("text/plain; version=0.0.4; charset=utf-8", registry.exposition)
  | "/health" => some ("text/plain; charset=utf-8", "OK")
  | _ => none

/-- The answer to a request. -/
def respond (registry : Registry) (method path : String) : Response :=
  match page? registry path with
  | none => ⟨404, none, none, ""⟩
  | some (contentType, body) =>
      if method = "GET" then ⟨200, some contentType, none, body⟩
      else if method = "HEAD" then ⟨200, some contentType, none, ""⟩
      else ⟨405, none, some "GET,HEAD", ""⟩

/-- What is logged when the endpoint is opened at an address.  When the address
cannot be bound for some reason, the endpoint gives up and the relay goes on. -/
def openingLog (address : SocketAddress) (bound : Except String Unit) : List Log.Entry :=
  Log.info "Metrics server starting" [("addr", address.text)] ::
    match bound with
    | .ok () => []
    | .error reason =>
        [Log.error "Failed to bind metrics server" [("error", reason), ("addr", address.text)]]

end Endpoint

end ChangeRelay.Metrics
