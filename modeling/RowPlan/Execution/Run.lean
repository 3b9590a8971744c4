import RowPlan.Execution.Step

/-!
# Running plans

A plan runs on a document: it is loaded, the records at its pointer become rows, and its steps are
applied in order. What goes wrong with the plan or with the records is an outcome of the run; only an
unreadable expression in the plan, or a value without a text where one is needed, stops it.
-/

namespace RowPlan

/-- Run steps from a state, collecting their notes. -/
def runFrom (state : State) : List Step → Except StepError (State × List Field.Note)
  | [] => .ok (state, [])
  | step :: rest => do
    let (next, notes) ← step.run state
    let (final, more) ← runFrom next rest
    .ok (final, notes ++ more)

/-- Rows and the warnings about how they came about, each of them once. -/
structure Table where
  rows : List Row
  warnings : List String

/-- Run the steps of a plan on rows. -/
def Plan.runSteps (plan : Plan) (rows : List Row) : Except StepError Table := do
  let (state, notes) ← runFrom ⟨rows, none⟩ plan.steps
  .ok ⟨state.rows, (notes.map Field.Note.message).eraseDups⟩

/-- Why a run gives no table. -/
inductive Failure where
  | plan (problems : List PlanProblem)
  | records (error : RecordError)

namespace Failure

/-- The wording of a failure. -/
def message : Failure → String
  | plan problems => "PlanInvalid: " ++ refusalMessage (problems.map PlanProblem.message)
  | records error => error.message

/-- The reason of a failure. -/
def reason : Failure → Reason
  | plan _ => .planInvalid
  | records error => error.reason

end Failure

/-- The outcome of a run. -/
inductive Execution where
  | done (table : Table)
  | failed (failure : Failure)

/-- Bound the number of input rows; zero means no bound. -/
def truncateRows (maxRows : Int) (rows : List Row) : Except TextError (List Row × List String) :=
  if maxRows ≠ 0 ∧ maxRows < rows.length then do
    let bound ← Decimal.writeInteger maxRows
    .ok (firstRows maxRows rows, [s!"Input truncated to {bound} of {rows.length} rows"])
  else .ok (rows, [])

/-- Run a plan that has been checked on a document. -/
def Plan.runOn (plan : Plan) (document : Value) (maxRows : Int) : Except StepError Execution :=
  match Records.extract document plan.recordPath with
  | .error error => .ok (.failed (.records error))
  | .ok records => do
    let (rows, truncation) ← (truncateRows maxRows records.rows).mapError .text
    let table ← plan.runSteps rows
    .ok (.done ⟨table.rows,
      (records.warnings ++ truncation ++ table.warnings).eraseDups⟩)

/-- Run a plan on a document after checking it. -/
def Plan.execute (plan : Plan) (document : Value) (maxRows : Int) : Except StepError Execution :=
  match plan.validate with
  | .error (.refused problems) => .ok (.failed (.plan problems))
  | .error (.numeral error) => .error (.expression (.numeral error))
  | .error (.text error) => .error (.text error)
  | .ok plan => plan.runOn document maxRows

/-- Load a plan from a value and run it on a document. -/
def execute (plan document : Value) (maxRows : Int) : Except StepError Execution :=
  match Plan.parse plan with
  | .error (.refused problems) => .ok (.failed (.plan problems))
  | .error (.numeral error) => .error (.expression (.numeral error))
  | .error (.text error) => .error (.text error)
  | .ok plan => plan.execute document maxRows

end RowPlan
