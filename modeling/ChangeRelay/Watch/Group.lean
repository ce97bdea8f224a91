import ChangeRelay.Error
import ChangeRelay.Log.Entry
import ChangeRelay.Resource

/-!
# Groups of watches

The watches of all resources run side by side.  A watch that ends well is
forgotten; one that fails leaves its resource unwatched, so its failure is
reported to the owner of the group, one failure at a time and in the order in
which the watches ended.
-/

namespace ChangeRelay.Watch

/-- How a watch ended. -/
inductive Ending where
  | returned (result : Except PluginError Unit)
  /-- It broke off; the description says how. -/
  | died (description : String)

/-- A watch that ended, with the resource that it was for. -/
structure Finished where
  resource : Resource
  ending : Ending

/-- The failure that a watch that ended amounts to, unless it ended well. -/
def Finished.failure? (finished : Finished) : Option RelayError :=
  match finished.ending with
  | .returned (.ok ()) => none
  | .returned (.error error) => some (error.inPlugin finished.resource.name)
  | .died description =>
      some ((PluginError.watch ("watch task died: " ++ description)).inPlugin "k8s")

/-- What is logged when the owner learns that a watch ended. -/
def Finished.entry (finished : Finished) : Log.Entry :=
  match finished.ending with
  | .returned (.ok ()) => Log.debug "Watch finished" [("resource", finished.resource.name)]
  | .returned (.error error) =>
      Log.error "Watch failed"
        [("resource", finished.resource.name), ("error", error.message)]
  | .died description => Log.error "Watch task aborted or panicked" [("error", description)]

/-- A group of watches. -/
structure Group where
  /-- The resources of the watches that run. -/
  running : List Resource
  /-- The watches that ended and that the owner does not know of yet, in the
  order in which they ended. -/
  finished : List Finished

/-- The answer to the question for the next failure. -/
inductive NextFailure where
  | failed (error : RelayError)
  /-- No watch is left. -/
  | noneLeft
  /-- No watch has failed so far, and some still run. -/
  | waiting
deriving DecidableEq, Repr

namespace Group

/-- The group without watches. -/
def empty : Group :=
  ⟨[], []⟩

/-- A group with one watch more. -/
def spawn (resource : Resource) (group : Group) : Group :=
  { group with running := group.running ++ [resource] }

/-- A group in which a watch came to its end. -/
def finish (finished : Finished) (group : Group) : Group :=
  ⟨group.running.erase finished.resource, group.finished ++ [finished]⟩

/-- The number of watches that the owner has to do with. -/
def size (group : Group) : Nat :=
  group.running.length + group.finished.length

/-- Whether the owner has to do with no watch any more. -/
def isEmpty (group : Group) : Bool :=
  group.size = 0

/-- The first failure among watches that ended, the watches after it, and what
is logged on the way. -/
def findFailure : List Finished → Option RelayError × List Finished × List Log.Entry
  | [] => (none, [], [])
  | finished :: rest =>
      match finished.failure? with
      | some error => (some error, rest, [finished.entry])
      | none =>
          let (error?, after, log) := findFailure rest
          (error?, after, finished.entry :: log)

/-- Ask for the next failure. -/
def nextFailure (group : Group) : NextFailure × Group × List Log.Entry :=
  let (error?, rest, log) := findFailure group.finished
  let answer :=
    match error? with
    | some error => .failed error
    | none => if group.running.isEmpty then .noneLeft else .waiting
  (answer, { group with finished := rest }, log)

/-- Break off every watch and forget it. -/
def shutdown (_ : Group) : Group :=
  empty

end Group

end ChangeRelay.Watch
