/-!
# Errors

A plugin is one of the parts at the edges of the relay: a watch or an emitter.
What it reports is a `PluginError`; the relay reports a `RelayError`, which
names the plugin.
-/

namespace ChangeRelay

/-- Why a plugin failed. -/
inductive PluginError where
  | init (text : String)
  | send (text : String)
  | connection (text : String)
  | watch (text : String)
deriving DecidableEq, Repr

/-- Why the relay failed. -/
inductive RelayError where
  | config (text : String)
  | plugin (name message : String)
  | metrics (text : String)
deriving DecidableEq, Repr

namespace PluginError

/-- The error as it is shown. -/
def message : PluginError → String
  | init text => "initialization failed: " ++ text
  | send text => "send failed: " ++ text
  | connection text => "connection error: " ++ text
  | watch text => "watch failed: " ++ text

/-- The error of the plugin with this name. -/
def inPlugin (error : PluginError) (name : String) : RelayError :=
  .plugin name error.message

/-- The error of a plugin whose name is not known. -/
def toRelayError (error : PluginError) : RelayError :=
  error.inPlugin "unknown"

end PluginError

namespace RelayError

/-- The error as it is shown. -/
def message : RelayError → String
  | config text => "configuration error: " ++ text
  | plugin name text => "plugin '" ++ name ++ "' error: " ++ text
  | metrics text => "metrics error: " ++ text

end RelayError

end ChangeRelay
