/-!
# Log entries

What the relay logs is part of what its functions return: each function that
logs gives back its entries in the order in which they are written.
-/

namespace ChangeRelay.Log

/-- How serious an entry is. -/
inductive Level where
  | error
  | warn
  | info
  | debug
deriving DecidableEq, Repr

namespace Level

/-- The name of a level in the log. -/
def name : Level → String
  | error => "ERROR"
  | warn => "WARN"
  | info => "INFO"
  | debug => "DEBUG"

/-- The more serious a level, the lower its rank. -/
def rank : Level → Nat
  | error => 0
  | warn => 1
  | info => 2
  | debug => 3

end Level

/-- One log entry: a fixed message, and fields that say what it is about. -/
structure Entry where
  level : Level
  message : String
  fields : List (String × String)
deriving DecidableEq, Repr

/-- An entry about a failure. -/
def error (message : String) (fields : List (String × String)) : Entry :=
  ⟨.error, message, fields⟩

/-- An entry about something that should not happen. -/
def warn (message : String) (fields : List (String × String)) : Entry :=
  ⟨.warn, message, fields⟩

/-- An entry about the normal course of events. -/
def info (message : String) (fields : List (String × String)) : Entry :=
  ⟨.info, message, fields⟩

/-- An entry about a single decision. -/
def debug (message : String) (fields : List (String × String)) : Entry :=
  ⟨.debug, message, fields⟩

/-- The entries that are at least as serious as a level. -/
def atLeast (level : Level) (entries : List Entry) : List Entry :=
  entries.filter fun entry => entry.level.rank ≤ level.rank

/-- The entries of a level. -/
def ofLevel (level : Level) (entries : List Entry) : List Entry :=
  entries.filter fun entry => entry.level = level

@[simp]
theorem ofLevel_nil (level : Level) : ofLevel level [] = [] :=
  rfl

@[simp]
theorem ofLevel_append (level : Level) (first second : List Entry) :
    ofLevel level (first ++ second) = ofLevel level first ++ ofLevel level second :=
  List.filter_append first second

end ChangeRelay.Log
