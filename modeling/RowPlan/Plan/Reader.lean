import RowPlan.Plan.Basic
import RowPlan.Shape
import RowPlan.Value.Display

/-!
# Reading plans

A plan is read from a JSON object. Members that a plan does not know are ignored, and members with a
name of two words may also be written with underscores. The operations of the steps are looked at
first; only if all are known are the parts of the plan read. A message quotes an unknown operation, which
cannot be done if an integer in it has too many digits.
-/

namespace RowPlan

/-- What is wrong with the form of a plan. -/
inductive ShapeProblem where
  | notObject
  | stepsNotArray
  | stepNotObject (index : Nat)
  | noOp (index : Nat)
  | unknownOp (index : Nat) (op : String)
  | malformed (issue : Shape.Issue)

/-- The wording of a problem with the form of a plan. -/
def ShapeProblem.message : ShapeProblem → String
  | .notObject => "Plan must be a JSON object"
  | .stepsNotArray => "steps must be an array"
  | .stepNotObject index => s!"steps[{index}] must be an object"
  | .noOp index => s!"steps[{index}].op is required"
  | .unknownOp index op =>
    s!"steps[{index}].op '{op}' is not valid. Expected one of: " ++ ", ".intercalate Step.ops
  | .malformed issue => issue.message

/-- Why a plan cannot be read: it has not the form of a plan, or it cannot be said what is wrong. -/
inductive Plan.ReadError where
  | malformed (problems : List ShapeProblem)
  | text (error : TextError)

namespace Condition

mutual

/-- Read a condition. -/
def read : Value → Shape.Checked Condition
  | .obj members =>
    ((((Shape.member members ["op"] Shape.lowerText).map node).both
      (.valid (members.lookup "left"))).both (.valid (members.lookup "right"))).both
      (readItems members)
  | _ => .fault (.notRecord "Condition")

/-- Read the parts of a condition from its members. -/
def readItems : List (String × Value) → Shape.Checked (Option (List Condition))
  | [] => .valid none
  | (key, value) :: rest => if key = "items" then (readParts value).under "items" else readItems rest

/-- Read the parts of a condition, null if they are left out. -/
def readParts : Value → Shape.Checked (Option (List Condition))
  | .null => .valid none
  | .arr values => (readAll 0 values).map some
  | _ => .fault .notArray

/-- Read several conditions, each under its index. -/
def readAll (index : Nat) : List Value → Shape.Checked (List Condition)
  | [] => .valid []
  | value :: rest =>
    (((read value).under (toString index)).map List.cons).both (readAll (index + 1) rest)

end

end Condition

/-- Read a field to copy. -/
def FieldSpec.read : Value → Shape.Checked FieldSpec :=
  Shape.record "FieldSpec" fun members =>
    (((Shape.member members ["from", "from_"] Shape.text).map FieldSpec.mk).both
      (Shape.member members ["as", "as_"] Shape.text)).both
      (Shape.memberOr members ["typeHint", "type_hint"] (Shape.optional Shape.text) none)

/-- Read a field to compute. -/
def ComputeSpec.read : Value → Shape.Checked ComputeSpec :=
  Shape.record "ComputeSpec" fun members =>
    ((Shape.member members ["as", "as_"] Shape.text).map ComputeSpec.mk).both
      (Shape.member members ["expr"] Shape.text)

/-- Read a field to map. A fallback of null counts as given. -/
def MapSpec.read : Value → Shape.Checked MapSpec :=
  Shape.record "MapSpec" fun members =>
    ((((Shape.member members ["from", "from_"] Shape.text).map MapSpec.mk).both
      (Shape.member members ["as", "as_"] Shape.text)).both
      (Shape.memberOr members ["mapping"] Shape.members [])).both
      (.valid (Row.find? members "default"))

/-- Read an aggregate. -/
def MetricSpec.read : Value → Shape.Checked MetricSpec :=
  Shape.record "MetricSpec" fun members =>
    ((((Shape.member members ["as", "as_"] Shape.text).map MetricSpec.mk).both
      (Shape.member members ["fn"] Shape.lowerText)).both
      (Shape.memberOr members ["field"] (Shape.optional Shape.text) none)).both
      (Shape.memberOr members ["expr"] (Shape.optional Shape.text) none)

/-- Read what a filter keeps: an expression text or a condition tree. The issues of both readings are
reported. -/
def Filter.read : Value → Shape.Checked Filter
  | .str text => .valid (.expr text)
  | value =>
    match (Condition.read value).under "Condition" with
    | .valid condition => .valid (.tree condition)
    | .invalid issues => .invalid (⟨["str"], .notText⟩ :: issues)

/-- Read the direction of a sort; null stands for ascending. -/
def readDirection : Value → Shape.Checked String
  | .null => .valid "asc"
  | value => Shape.lowerText value

/-- Read a step whose operation is known. -/
def Step.readMembers (op : String) (members : Row) : Shape.Checked Step :=
  match op with
  | "select" =>
    (Shape.memberOr members ["fields"] (Shape.array FieldSpec.read) []).map Step.select
  | "filter" =>
    (Shape.memberOr members ["where"] (Shape.optional Filter.read) none).map Step.filter
  | "compute" =>
    (Shape.memberOr members ["compute"] (Shape.array ComputeSpec.read) []).map Step.compute
  | "mapValue" => (Shape.memberOr members ["map"] (Shape.array MapSpec.read) []).map Step.mapValue
  | "sort" =>
    ((Shape.memberOr members ["by"] Shape.text "").map Step.sort).both
      (Shape.memberOr members ["dir"] readDirection "asc")
  | "groupBy" => (Shape.memberOr members ["keys"] (Shape.array Shape.text) []).map Step.groupBy
  | "aggregate" =>
    (Shape.memberOr members ["metrics"] (Shape.array MetricSpec.read) []).map Step.aggregate
  | _ => (Shape.memberOr members ["n"] (Shape.optional Shape.integer) none).map Step.limit

/-- The operation that a step names. -/
def Step.opOf (members : Row) : Value := (members.find? "op").getD .null

/-- Read a step; its issues come under its operation. -/
def Step.read : Value → Shape.Checked Step
  | .obj members =>
    match Step.opOf members with
    | .str op => (Step.readMembers op members).under op
    | _ => .fault .missing
  | _ => .fault .notObject

/-- What is wrong with the operation of one step. -/
def Step.opProblem? (index : Nat) : Value → Except TextError (Option ShapeProblem)
  | .obj members =>
    let op := Step.opOf members
    if !op.isGiven then .ok (some (.noOp index))
    else
      match op with
      | .str name => .ok (if Step.ops.contains name then none else some (.unknownOp index name))
      | _ => op.text.map fun quoted => some (.unknownOp index quoted)
  | _ => .ok (some (.stepNotObject index))

/-- What is wrong with the operations of the steps, numbered from `index`. -/
def Step.opProblems (index : Nat) : List Value → Except TextError (List ShapeProblem)
  | [] => .ok []
  | step :: rest => do
    let problem ← Step.opProblem? index step
    let problems ← Step.opProblems (index + 1) rest
    .ok (problem.toList ++ problems)

/-- What is wrong with the steps of a plan before they are read. -/
def Plan.stepProblems (members : Row) : Except TextError (List ShapeProblem) :=
  match members.find? "steps" with
  | none => .ok []
  | some .null => .ok []
  | some (.arr steps) => Step.opProblems 0 steps
  | some _ => .ok [.stepsNotArray]

/-- Read the pointer to the records. -/
def Plan.readSource : Value → Shape.Checked String :=
  Shape.record "SourceSpec" fun members =>
    Shape.memberOr members ["recordPath", "record_path"] Shape.text "/"

/-- Read the steps of a plan; null stands for no steps. -/
def Plan.readSteps : Value → Shape.Checked (List Step)
  | .null => .valid []
  | value => Shape.array Step.read value

/-- Read the members of a plan. -/
def Plan.readMembers (members : Row) : Shape.Checked Plan :=
  (((Shape.memberOr members ["planVersion", "plan_version"] Shape.text planVersion).map
    Plan.mk).both (Shape.memberOr members ["source"] Plan.readSource "/")).both
    (Shape.memberOr members ["steps"] Plan.readSteps [])

/-- Read a plan, or report everything that is wrong with its form. -/
def Plan.read : Value → Except Plan.ReadError Plan
  | .obj members =>
    match Plan.stepProblems members with
    | .error error => .error (.text error)
    | .ok [] =>
      match Plan.readMembers members with
      | .valid plan => .ok plan
      | .invalid issues => .error (.malformed (issues.map .malformed))
    | .ok problems => .error (.malformed problems)
  | _ => .error (.malformed [.notObject])

end RowPlan
