import RowPlan.Discovery.Search
import RowPlan.Execution.Run
import RowPlan.Output.Schema
import RowPlan.Plan.Writer
import RowPlan.Proposal.Source
import RowPlan.Template

/-!
# Previews

A preview turns a document and a goal into a table. It fails if an explicit plan is refused or if
there are no records. This module holds what is asked of a preview and what can come of it.
-/

namespace RowPlan

namespace Preview

/-- Where the plan of a preview comes from. -/
inductive Origin where
  | explicit
  | source
  | template (kind : Template.Kind)
deriving DecidableEq

/-- The wire form of an origin. -/
def Origin.name : Origin → String
  | explicit => "explicit"
  | source => "source"
  | template kind => "template:" ++ kind.label

/-- A plan, where it comes from, and the pointer to the records that is reported with it. -/
structure Chosen where
  plan : Plan
  origin : Origin
  recordPath : String

/-- Why there is no preview. -/
inductive Failure where
  | planRefused (problems : List PlanProblem)
  | planUnreadable (error : ProposalError)
  | noRecords (error : DiscoveryError)
  | badRecords (recordPath : String) (error : RecordError)
  | notExecuted (chosen : Chosen) (warnings : List String) (failure : RowPlan.Failure)

namespace Failure

/-- The wording of a failure. -/
def message : Failure → String
  | planRefused problems =>
    "Plan schema validation failed: " ++ refusalMessage (problems.map PlanProblem.message)
  | planUnreadable error => "Failed to parse plan: " ++ error.message
  | noRecords error => error.message
  | badRecords _ error => error.message
  | notExecuted _ _ failure => failure.message

/-- The wire form of the kind of a failure. -/
def code : Failure → String
  | planRefused _ => "PLAN_INVALID"
  | planUnreadable _ => "PLAN_PARSE_ERROR"
  | noRecords _ => "RECORDPATH_NOT_FOUND"
  | badRecords _ _ => "RECORDPATH_NOT_FOUND"
  | notExecuted .. => "PLAN_EXECUTION_ERROR"

/-- The reason of a failure. -/
def reason : Failure → Reason
  | planRefused _ => .planInvalid
  | planUnreadable _ => .planParseError
  | noRecords error => error.reason
  | badRecords _ error => error.reason
  | notExecuted _ _ failure => failure.reason

/-- The plan that was chosen before the failure. -/
def chosen? : Failure → Option Chosen
  | notExecuted chosen _ _ => some chosen
  | _ => none

/-- The pointer to the records that was settled before the failure. -/
def recordPath? : Failure → Option String
  | badRecords recordPath _ => some recordPath
  | notExecuted chosen _ _ => some chosen.recordPath
  | _ => none

/-- The warnings before the failure. -/
def warnings : Failure → List String
  | notExecuted _ warnings _ => warnings
  | _ => []

end Failure

/-- The plan that was run, and its table. -/
structure Success where
  chosen : Chosen
  rows : List Row
  csv : String
  warnings : List String

/-- The schema of the rows. -/
def Success.schema (success : Success) : Value := Schema.document success.rows

/-- A plan that is given explicitly: written down, or built already. -/
inductive Given where
  | written (value : Value)
  | built (plan : Plan)

instance : Coe (Option Value) (Option Given) := ⟨Option.map .written⟩

/-- What is asked of a preview. -/
structure Request where
  document : Value
  goal : Option String
  plan : Option Given
  source : Option Proposal.Source
  recordPath : Option String

end Preview

/-- A preview with the discovery that went before it. -/
structure Preview where
  discovery : Discovery
  result : Except Preview.Failure Preview.Success

namespace Preview

/-- The written form of a preview. -/
def toValue (preview : Preview) : Value :=
  let candidates :=
    [("candidates", Value.arr (preview.discovery.candidates.map ScoredCandidate.toValue))]
  let chosenMembers (chosen : Chosen) : Row :=
    [("plan", chosen.plan.toValue), ("planOrigin", .str chosen.origin.name)]
  let rowsMember (rows : List Row) : Row := [("rows", .arr (rows.map .obj))]
  match preview.result with
  | .ok success =>
    .obj ([("success", .bool true)] ++ chosenMembers success.chosen
      ++ [("recordPath", .str success.chosen.recordPath)] ++ candidates
      ++ rowsMember success.rows
      ++ [("outputSchema", success.schema), ("csvPreview", .str success.csv),
        ("warnings", .ofStrings success.warnings)])
  | .error failure =>
    .obj ([("success", .bool false)] ++ (failure.chosen?.map chosenMembers).getD []
      ++ (failure.recordPath?.map fun path => ("recordPath", Value.str path)).toList
      ++ candidates ++ rowsMember []
      ++ [("warnings", .ofStrings failure.warnings), ("error", .str failure.message),
        ("errorCode", .str failure.code), ("reason", .str failure.reason.name)])

end Preview

end RowPlan
