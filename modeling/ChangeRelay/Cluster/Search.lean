import ChangeRelay.Cluster.Address
import ChangeRelay.Text.Parts
import ChangeRelay.Text.Quotation

/-!
# The search for the cluster

Files describe the cluster that the relay watches.  A variable lists their
paths, and if it lists none there is one in the home directory.  All of them are
read, and the first that describes a cluster counts.

Only if the files describe no cluster, the one around the program is looked for:
an address and an account have to be found.
-/

namespace ChangeRelay.Cluster

/-! ## Files -/

/-- Why a file cannot be read. -/
structure FileFault where
  text : String
  /-- The number of the fault. -/
  code : Nat
deriving DecidableEq, Repr

namespace FileFault

/-- There is no file. -/
def missing : FileFault :=
  ⟨"No such file or directory", 2⟩

/-- The path goes through a file that is no directory. -/
def throughFile : FileFault :=
  ⟨"Not a directory", 20⟩

/-- The file is a directory. -/
def directory : FileFault :=
  ⟨"Is a directory", 21⟩

/-- The fault in words. -/
def message (fault : FileFault) : String :=
  fault.text ++ " (os error " ++ toString fault.code ++ ")"

end FileFault

/-- What surrounds the program, where clusters are members of a type. -/
structure Surroundings (Cluster : Type) where
  /-- The variables of the environment. -/
  lookup : String → Option String
  /-- What comes of reading the file at a path: it describes a cluster, or it
  does not. -/
  read : String → Except FileFault (Option Cluster)
  /-- What comes of reading the account of the program inside of a cluster. -/
  account : Except FileFault Cluster

/-! ## Faults -/

/-- Why the files describe no cluster. -/
inductive DescriptionFault where
  /-- There is no home directory in which the file could be. -/
  | noHome
  | unread (path : String) (fault : FileFault)
  /-- Nothing in the files says which cluster is meant. -/
  | noContext
deriving DecidableEq, Repr

namespace DescriptionFault

/-- The fault in words. -/
def message : DescriptionFault → String
  | noHome => "failed to find the path of kubeconfig"
  | unread path fault =>
      "failed to read kubeconfig from '" ++ Text.quotePath path ++ "': " ++ fault.message
  | noContext => "failed to determine current context"

/-- The fault and what caused it. -/
def chain (fault : DescriptionFault) : List String :=
  match fault with
  | unread _ cause => [fault.message, cause.message]
  | noHome | noContext => [fault.message]

end DescriptionFault

/-- Why there is no cluster around the program. -/
inductive PlacementFault where
  | address (fault : AddressFault)
  | account (fault : FileFault)
deriving DecidableEq, Repr

/-- The fault in words. -/
def PlacementFault.message : PlacementFault → String
  | address fault => fault.message
  | account fault => "failed to read the default namespace: " ++ fault.message

/-- Why no cluster is found. -/
structure SearchFault where
  placement : PlacementFault
  description : DescriptionFault
deriving DecidableEq, Repr

namespace SearchFault

/-- The fault in words. -/
def message (fault : SearchFault) : String :=
  "failed to infer config: in-cluster: (" ++ fault.placement.message ++ "), kubeconfig: ("
    ++ fault.description.message ++ ")"

/-- The fault and what caused it. -/
def chain (fault : SearchFault) : List String :=
  fault.message :: fault.description.chain

end SearchFault

/-! ## Paths -/

/-- The variable with the paths of the files. -/
def pathsVariable : String :=
  "KUBECONFIG"

/-- The variable with the path of the home directory. -/
def homeVariable : String :=
  "HOME"

/-- The path of a member of a directory. -/
def memberPath (directory name : String) : String :=
  if directory = "" || directory.endsWith "/" then directory ++ name
  else directory ++ "/" ++ name

/-- The paths that the variable lists, with colons between them. -/
def listedPaths (lookup : String → Option String) : List String :=
  let list := (lookup pathsVariable).getD ""
  ((Text.segments ':' list.toList).filter (!·.isEmpty)).map String.ofList

/-- The paths of the files that describe the cluster. -/
def paths (lookup : String → Option String) : Except DescriptionFault (List String) :=
  match listedPaths lookup, lookup homeVariable with
  | [], none => .error .noHome
  | [], some home => .ok [memberPath (memberPath home ".kube") "config"]
  | listed, _ => .ok listed

/-! ## Searching -/

variable {Cluster : Type}

/-- The cluster that the first of the files describes that describes one, once
all of them are read. -/
def readAll (read : String → Except FileFault (Option Cluster)) :
    List String → Except DescriptionFault (Option Cluster)
  | [] => .ok none
  | path :: rest => do
      let first ← (read path).mapError (.unread path)
      let others ← readAll read rest
      return first.or others

/-- The cluster that the files describe. -/
def described (surroundings : Surroundings Cluster) : Except DescriptionFault Cluster := do
  match ← readAll surroundings.read (← paths surroundings.lookup) with
  | some cluster => return cluster
  | none => throw .noContext

/-- The cluster around the program. -/
def around (surroundings : Surroundings Cluster) : Except PlacementFault Cluster := do
  (checkAddress surroundings.lookup).mapError .address
  surroundings.account.mapError .account

/-- The cluster that the relay watches. -/
def search (surroundings : Surroundings Cluster) : Except SearchFault Cluster :=
  match described surroundings, around surroundings with
  | .ok cluster, _ => .ok cluster
  | .error _, .ok cluster => .ok cluster
  | .error description, .error placement => .error ⟨placement, description⟩

end ChangeRelay.Cluster
