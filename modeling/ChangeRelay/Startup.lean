import ChangeRelay.Cluster.Search
import ChangeRelay.Config
import ChangeRelay.Relay.Session
import ChangeRelay.Sink.Console
import ChangeRelay.Sink.Webhook

/-!
# Starting the relay

The relay starts with the variables of its environment: it loads its
configuration, sets up logging and looks for the cluster that it watches.  The
first of these steps that fails ends the program, with a report that names the
causes of the failure one after another.
-/

namespace ChangeRelay

/-! ## Setting up logging

Logging is set up once, with directives from one of two places: those of the
environment if they can be read, and otherwise those of the configuration. -/

namespace Log

/-- The directives that count, from those of the environment and the level of
the configuration.  Those of the environment are passed over if they cannot be
read, unless that stops the program at once. -/
def chooseDirectives (override : Option String) (level : String) : Except ConfigFault String :=
  let own := (Directive.checkList level).map fun () => level
  match override.map fun text => (text, Directive.checkList text) with
  | none => own.mapError (.logLevel level)
  | some (text, .ok ()) => .ok text
  | some (text, .error fault) =>
      if fault.isAbrupt then .error (.logLevel text fault) else own.mapError (.logLevel level)

/-- Set up logging, where it may be set up already.  The directives in force
come back. -/
def setUp (isSetUp : Bool) (override : Option String) (level : String) :
    Except ConfigFault String := do
  let directives ← chooseDirectives override level
  if isSetUp then throw .loggingInstalled
  return directives

end Log

/-! ## Faults -/

open Network Relay Sink

/-- Why the relay does not start. -/
inductive StartFault where
  /-- The settings cannot be used. -/
  | settings (fault : ConfigFault)
  /-- No cluster is found. -/
  | noCluster (fault : Cluster.SearchFault)
  /-- The capacity of the channel is out of range. -/
  | capacity
deriving DecidableEq, Repr

namespace StartFault

/-- The fault in words. -/
def message : StartFault → String
  | settings fault => fault.toRelayError.message
  | noCluster _ => "failed to create Kubernetes client"
  | capacity => "a semaphore may not have more than MAX_PERMITS permits (2305843009213693951)"

/-- What caused the fault, the nearest cause first. -/
def causes : StartFault → List String
  | settings _ | capacity => []
  | noCluster fault => ("Failed to infer configuration: " ++ fault.message) :: fault.chain

/-- The causes as lines, which are numbered if there are several. -/
def causesText (causes : List String) : String :=
  match causes with
  | [] => ""
  | [cause] => "\n\nCaused by:\n    " ++ cause
  | causes =>
      "\n\nCaused by:" ++ String.join (causes.zipIdx.map fun (cause, index) =>
        "\n    " ++ toString index ++ ": " ++ cause)

/-- The fault as it is reported. -/
def report (fault : StartFault) : String :=
  "Error: " ++ fault.message ++ causesText fault.causes ++ "\n"

/-- The exit code of the program. -/
def exitCode : StartFault → Nat
  | settings fault => if fault.isAbrupt then 101 else 1
  | noCluster _ => 1
  | capacity => 101

end StartFault

/-! ## From the environment to the session -/

namespace Startup

/-- The variable with directives that count before the configured log level. -/
def directivesVariable : String :=
  "RUST_LOG"

/-- The configuration to start with, once logging is set up. -/
def prepare (lookup : String → Option String) : Except ConfigFault Config := do
  let config ← Config.load lookup
  let _ ← Log.setUp false (lookup directivesVariable) config.logLevel
  return config

/-- The emitter of a configuration: a webhook if it has one, else the console. -/
def emitter (transport : Http.Transport) (config : Config) : Emitter :=
  match config.webhookUrl with
  | some url => (Webhook.ofUrl url).emitter transport
  | none => Console.emitter .boxed

/-- What surrounds the relay; a cluster answers the questions at each path. -/
abbrev Surroundings : Type :=
  Cluster.Surroundings (String → List Watch.Reply)

/-- Start the relay, and run it until it is told to stop. -/
def launch (surroundings : Surroundings) (transport : Http.Transport) :
    Except StartFault SessionReport := do
  let config ← (prepare surroundings.lookup).mapError .settings
  let replies ← (Cluster.search surroundings).mapError .noCluster
  let hub := Hub.ofConfig config (emitter transport config)
  match runSession (.ofConfig config) replies config.resources hub false with
  | none => throw .capacity
  | some report => return report

end Startup

end ChangeRelay
