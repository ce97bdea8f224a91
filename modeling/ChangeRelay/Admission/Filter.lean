import ChangeRelay.Admission.Finding
import ChangeRelay.Admission.JobReport

/-!
# The admission filter

The filter decides for each change whether it is worth sending.  Failures,
restarts and evictions always are; the routine changes of Pods, Jobs and Event
objects are not.  A payload that does not have the shape its kind promises is
sent, and so is everything while filtering is off.
-/

namespace ChangeRelay.Admission

open Schema

/-! ## The rules -/

/-- Whether two specs differ.  A missing spec counts as the default one. -/
def specChanged (shape : Shape) (current previous : Option Datum) : Bool :=
  current.getD shape.default ≠ previous.getD shape.default

/-- The type and the reason that an Event object itself carries. -/
def eventTexts? : Snapshot → Option (Option String × Option String)
  | .coreEvent object => some (object.datum.textField? "type", object.datum.textField? "reason")
  | .eventsV1 object => some (object.datum.textField? "type", object.datum.textField? "reason")
  | _ => none

/-- The rule for Event objects.  They are never revised, so only their creation
matters: that of warnings, and that of evictions of any type. -/
def examineEvent (change : Change) : Finding :=
  if change.reason ≠ .created then .eventNotCreated change.reason
  else
    match eventTexts? change.current with
    | none => .eventUncast change.name
    | some (type, reason) =>
        if reason = some "Evicted" then .eventEvicted change.name
        else if type ≠ some "Warning" then .eventRoutine (type.getD "")
        else .eventWarning

/-- The rule for updates of Jobs. -/
def examineJobUpdate (change : Change) : Finding :=
  match change.current, change.previous with
  | .job current, some (.job previous) =>
      if specChanged Catalog.jobSpec (current.get? "spec") (previous.get? "spec") then
        .specChanged .job change.name
      else if (JobReport.of current).hasFailed then .jobFailed change.name
      else .routine .job change.name
  | .job _, _ => .unpaired
  | _, _ => .uncast .job change.name

/-- The rule for updates of Pods.  Only the current status counts. -/
def examinePodUpdate (change : Change) : Finding :=
  match change.current, change.previous with
  | .pod current, some (.pod previous) =>
      if specChanged Catalog.podSpec (current.get? "spec") (previous.get? "spec") then
        .specChanged .pod change.name
      else
        match (PodReport.of? current).bind PodReport.signal? with
        | some signal => .podTroubled change.name signal
        | none => .routine .pod change.name
  | .pod _, _ => .unpaired
  | _, _ => .uncast .pod change.name

/-- The rule for Jobs and Pods, given the rule for updates. -/
def examineWorkload (examineUpdate : Change → Finding) (change : Change) : Finding :=
  match change.reason with
  | .created | .deleted => .lifecycle
  | .updated => examineUpdate change
  | .other _ => .unknownReason

/-! ## The filter -/

/-- The admission filter: one flag, fixed when the filter is made. -/
structure Filter where
  enabled : Bool
deriving DecidableEq, Repr

namespace Filter

/-- What the filter finds about a change. -/
def examine (filter : Filter) (change : Change) : Finding :=
  if ¬ filter.enabled then .unfiltered
  else if change.kind = "Event" then examineEvent change
  else if change.kind = "Job" then examineWorkload examineJobUpdate change
  else if change.kind = "Pod" then examineWorkload examinePodUpdate change
  else .unruled

/-- Whether the filter lets a change through. -/
def sends (filter : Filter) (change : Change) : Bool :=
  (filter.examine change).sends

/-- The accepted spellings of a truth value. -/
def readFlag? (text : String) : Option Bool :=
  if text ∈ ["1", "t", "T", "TRUE", "true", "True"] then some true
  else if text ∈ ["0", "f", "F", "FALSE", "false", "False"] then some false
  else none

/-- The filter for a setting, and what is logged about it.  A setting that is
no truth value turns filtering off, so that a mistake never drops changes. -/
def ofSetting (setting : Option String) : Filter × List Log.Entry :=
  let text := setting.getD ""
  let flag := if text = "" then some false else readFlag? text
  let complaint :=
    if flag = none then
      [Log.warn "Invalid ADVANCED_FILTERS value, defaulting to false" [("value", text)]]
    else []
  let enabled := flag.getD false
  let state := if enabled then "ENABLED" else "DISABLED"
  (⟨enabled⟩, complaint ++ [Log.info ("Advanced filtering is " ++ state) []])

/-- The filter of a relay that was given no setting. -/
def disabled : Filter :=
  ⟨false⟩

end Filter

end ChangeRelay.Admission
