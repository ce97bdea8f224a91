import ChangeRelay.Startup

/-!
# The program

The program starts the relay with the variables of its environment.  It holds no
connection to a cluster, so it ends with a report of what is missing: a file
that can be read counts as one that describes no cluster.
-/

namespace ChangeRelay.Startup

/-- The names of the variables that the relay looks at. -/
def variableNames : List String :=
  Variable.all.map Variable.name
    ++ [directivesVariable, Cluster.pathsVariable, Cluster.homeVariable, Cluster.hostVariable,
      Cluster.portVariable]

/-- The fault of an attempt to read a file. -/
def fileFault : IO.Error → Cluster.FileFault
  | .noFileOrDirectory _ code details | .inappropriateType _ code details
  | .permissionDenied _ code details => ⟨details, code.toNat⟩
  | .hardwareFault code details | .otherError code details => ⟨details, code.toNat⟩
  | error => ⟨toString error, 0⟩

/-- What comes of reading the file at a path. -/
def readHere (path : String) : IO (Except Cluster.FileFault (Option (String → List Watch.Reply))) :=
  try
    let _ ← IO.FS.readBinFile path
    return .ok none
  catch error =>
    return .error (fileFault error)

/-- The environment of the program. -/
def surroundingsHere : IO Surroundings := do
  let values ← variableNames.mapM fun name => return (name, ← IO.getEnv name)
  let lookup := fun name => (values.lookup name).join
  let paths := (Cluster.paths lookup).toOption.getD []
  let files ← paths.mapM fun path => return (path, ← readHere path)
  return ⟨lookup, fun path => (files.lookup path).getD (.error .missing), .error .missing⟩

/-- Start the relay in the environment of the program. -/
def launchHere : IO UInt32 := do
  match launch (← surroundingsHere) .absent with
  | .ok session =>
      IO.print session.printed
      return 0
  | .error fault =>
      IO.eprint fault.report
      return UInt32.ofNat fault.exitCode

end ChangeRelay.Startup

/-- The program. -/
def main : IO UInt32 :=
  ChangeRelay.Startup.launchHere
