import ChangeRelay.Object

/-!
# What a Job reports about itself

The admission rules look at the conditions of a Job, and of each condition only
at its type and its status.
-/

namespace ChangeRelay.Admission

open Schema

/-- A condition of a Job. -/
structure JobCondition where
  type : String
  status : String
deriving DecidableEq, Repr

/-- The conditions that a Job reports. -/
structure JobReport where
  conditions : List JobCondition
deriving DecidableEq, Repr

namespace JobCondition

/-- The condition in a record of the Job status. -/
def ofDatum (condition : Datum) : JobCondition where
  type := (condition.textField? "type").getD ""
  status := (condition.textField? "status").getD ""

/-- Whether the condition says that the Job failed. -/
def isFailure (condition : JobCondition) : Bool :=
  condition.type == "Failed" && condition.status == "True"

end JobCondition

namespace JobReport

/-- The report of a Job; a Job without a status reports no conditions. -/
def of (job : Object .jobs) : JobReport where
  conditions :=
    match job.get? "status" with
    | some status => (status.itemsField "conditions").map JobCondition.ofDatum
    | none => []

/-- Whether the Job has failed. -/
def hasFailed (report : JobReport) : Bool :=
  report.conditions.any (·.isFailure)

end JobReport

end ChangeRelay.Admission
