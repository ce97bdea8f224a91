import ChangeRelay.Relay.Emitter

/-!
# The console

Changes are printed for people to read, on one line each or in a box each.
-/

namespace ChangeRelay.Sink

open Relay

/-- How a change is printed. -/
inductive ConsoleLayout where
  | compact
  | boxed
deriving DecidableEq, Repr

namespace Console

/-- A name with its namespace in front, if there is one. -/
def qualifiedName (change : Change) : String :=
  if change.namespaceName = "" then change.name
  else change.namespaceName ++ "/" ++ change.name

/-- The line of a change. -/
def line (change : Change) : String :=
  "[" ++ change.kind ++ "] " ++ change.reason.label ++ " " ++ qualifiedName change ++ "\n"

/-- The box of a change. -/
def box (change : Change) : String :=
  "┌─ " ++ change.kind ++ " ─────────────────────────────────────────────\n"
    ++ "│ Reason:    " ++ change.reason.label ++ "\n"
    ++ "│ Namespace: " ++ change.namespaceName ++ "\n"
    ++ "│ Name:      " ++ change.name ++ "\n"
    ++ (if change.previous.isSome then "│ Previous:  yes\n" else "")
    ++ "└─────────────────────────────────────────────────────\n"

/-- A change as it is printed. -/
def entry : ConsoleLayout → Change → String
  | .compact => line
  | .boxed => box

/-- A batch as it is printed. -/
def print (layout : ConsoleLayout) (batch : List Change) : String :=
  String.join (batch.map (entry layout))

/-- How many changes were printed in some batches, the newest first: each batch
adds its own to those before. -/
def printedCount : List (List Change) → Nat
  | [] => 0
  | batch :: earlier => printedCount earlier + batch.length

/-- The emitter that prints.  Printing is taken to succeed. -/
def emitter (layout : ConsoleLayout) : Emitter where
  name := "stdout"
  emit _ batch := ⟨.ok (), print layout batch, [], []⟩
  health := ⟨true, [], []⟩
  shutdown _ := .silent

end Console

end ChangeRelay.Sink
