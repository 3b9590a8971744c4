import RowPlan.Plan.Reader
import RowPlan.Expr.Parser

/-!
# Plan rules

A plan that has the right form may still make no sense. The rules are checked one by one, and every
violation is reported with the place in the plan. Expressions are parsed on the way; one with an
unreadable numeral ends the check.
-/

namespace RowPlan

/-- The rules that a part of a plan may violate. -/
inductive Violation where
  | required
  | wrongVersion (found : String)
  | requires (op : String) (what : String)
  | requiresSourceAndTarget
  | requiresTarget
  | requiresExpr
  | badExpression (message : String)
  | duplicateTarget (name : String)
  | notOneItem
  | unknownOperator (op : String)
  | notWithinArray
  | emptyReference (side : String)
  | badDirection (direction : String)
  | notAggregated
  | unknownFunction (function : String)
  | notPositive

/-- The wording of a violation, to follow the place. -/
def Violation.message : Violation → String
  | .required => " is required"
  | .wrongVersion found => s!" must be '{planVersion}', got '{found}'"
  | .requires op what => s!": '{op}' requires {what}"
  | .requiresSourceAndTarget => " requires 'from' and 'as'"
  | .requiresTarget => " requires 'as'"
  | .requiresExpr => " requires 'expr'"
  | .badExpression message => s!": invalid expression: {message}"
  | .duplicateTarget name => s!": duplicate output name '{name}'"
  | .notOneItem => ": 'not' requires exactly one item"
  | .unknownOperator op =>
    s!".op '{op}' is not valid. Expected one of: "
      ++ ", ".intercalate (Condition.Test.all.map Condition.Test.name ++ Condition.logicalOps)
  | .notWithinArray => ": 'in' requires an array on the right"
  | .emptyReference side => s!".{side}: field reference is empty"
  | .badDirection direction => s!": 'sort' dir must be 'asc' or 'desc', got '{direction}'"
  | .notAggregated => ": 'groupBy' must be followed by 'aggregate'"
  | .unknownFunction function =>
    s!".fn '{function}' is not valid. Expected one of: " ++ ", ".intercalate aggregateFunctions
  | .notPositive => ": 'limit' requires 'n' > 0"

/-- A violation of a rule at a place in a plan. -/
structure RuleProblem where
  place : String
  violation : Violation

/-- The wording of a rule problem. -/
def RuleProblem.message (problem : RuleProblem) : String :=
  problem.place ++ problem.violation.message

/-- A check reports the violations that it finds; an unreadable numeral ends it. -/
abbrev Check := Except NumeralError (List RuleProblem)

namespace Check

/-- The place of an item of an array at a place. -/
def itemPlace (place : String) (index : Nat) : String := s!"{place}[{index}]"

/-- One violation if a rule is broken. -/
def ensure (holds : Bool) (place : String) (violation : Violation) : List RuleProblem :=
  if holds then [] else [⟨place, violation⟩]

/-- Check every item of a list, each at its own place. -/
def each {α : Type} (place : String) (check : String → α → Check) (index : Nat) : List α → Check
  | [] => .ok []
  | item :: rest => do
    let problems ← check (itemPlace place index) item
    let more ← each place check (index + 1) rest
    .ok (problems ++ more)

/-- An expression text has to be there and to parse. -/
def expression (place : String) (text : String) : Check :=
  if Text.isBlankText text then .ok [⟨place, .requiresExpr⟩]
  else
    match Expr.parse text with
    | .ok _ => .ok []
    | .error (.numeral error) => .error error
    | .error error => .ok [⟨place, .badExpression error.message⟩]

/-- Names that occur among earlier ones, once per repetition. -/
def repeated (seen : List String) : List String → List String
  | [] => []
  | name :: rest =>
    (if seen.contains name then [name] else []) ++ repeated (name :: seen) rest

/-- Output names have to be different. -/
def uniqueTargets (place : String) (names : List String) : List RuleProblem :=
  (repeated [] names).map fun name => ⟨place, .duplicateTarget name⟩

/-- A field reference in an operand has to name something. -/
def operand (place side : String) (written : Option Value) : List RuleProblem :=
  match written with
  | some (.obj members) =>
    match members.lookup "field" with
    | some value => ensure value.isGiven place (.emptyReference side)
    | none => []
  | _ => []

/-- A test has to have both operands, and `in` an array on the right. -/
def test (place op : String) (left right : Option Value) : List RuleProblem :=
  let isArray :=
    match right with
    | some (.arr _) => true
    | some _ => false
    | none => true
  ensure left.isSome place (.requires op "'left'")
    ++ ensure right.isSome place (.requires op "'right'")
    ++ ensure (op != "in" || isArray) place .notWithinArray
    ++ operand place "left" left ++ operand place "right" right

mutual

/-- The violations in a condition. -/
def condition (place : String) : Condition → List RuleProblem
  | .node op left right items =>
    if op = "not" then
      ensure ((items.getD []).length == 1) place .notOneItem ++ optionalParts place items
    else if op = "and" || op = "or" then
      ensure (!(items.getD []).isEmpty) place (.requires op "'items'") ++ optionalParts place items
    else if (Condition.Test.all.map Condition.Test.name).contains op then test place op left right
    else [⟨place, .unknownOperator op⟩]

/-- The violations in parts that may be left out. -/
def optionalParts (place : String) : Option (List Condition) → List RuleProblem
  | none => []
  | some items => parts (place ++ ".items") 0 items

/-- The violations in several conditions, each at its own place. -/
def parts (place : String) (index : Nat) : List Condition → List RuleProblem
  | [] => []
  | part :: rest => condition (itemPlace place index) part ++ parts place (index + 1) rest

end

/-- A filter has to say what it keeps. -/
def filter (place : String) : Option Filter → Check
  | none => .ok [⟨place, .requires "filter" "'where'"⟩]
  | some (.expr text) => expression (place ++ ".where") text
  | some (.tree tree) => .ok (condition (place ++ ".where") tree)

/-- A field to compute has to have a name and an expression. -/
def computeSpec (place : String) (spec : ComputeSpec) : Check := do
  let problems ← expression place spec.expr
  .ok (ensure (!spec.target.isEmpty) place .requiresTarget ++ problems)

/-- Whether an optional text is there and not empty. -/
def isPresent (text : Option String) : Bool := (text.map (!·.isEmpty)).getD false

/-- A metric has to have a name, a known function and, unless it counts, a field or an expression. -/
def metric (place : String) (spec : MetricSpec) : Check := do
  let function :=
    if !aggregateFunctions.contains spec.function then
      [⟨place, .unknownFunction spec.function⟩]
    else
      ensure (spec.function == "count" || isPresent spec.field || isPresent spec.expr) place
        (.requires spec.function "'field' or 'expr'")
  let problems ←
    match spec.expr with
    | some text => expression place text
    | none => .ok []
  .ok (ensure (!spec.target.isEmpty) place .requiresTarget ++ function ++ problems)

/-- A copied or mapped field has to have a source and a target. -/
def sourceAndTarget (place source target : String) : List RuleProblem :=
  ensure (!source.isEmpty && !target.isEmpty) place .requiresSourceAndTarget

/-- The violations in one step; `previous` and `next` are the steps around it. -/
def step (place : String) (previous next : Option Step) : Step → Check
  | .select fields => do
    let problems ← each (place ++ ".fields")
      (fun place (spec : FieldSpec) => .ok (sourceAndTarget place spec.source spec.target)) 0 fields
    .ok (ensure (!fields.isEmpty) place (.requires "select" "'fields'") ++ problems
      ++ uniqueTargets place (fields.map (·.target)))
  | .filter condition => filter place condition
  | .compute specs => do
    let problems ← each (place ++ ".compute") computeSpec 0 specs
    .ok (ensure (!specs.isEmpty) place (.requires "compute" "'compute' array") ++ problems
      ++ uniqueTargets place (specs.map (·.target)))
  | .mapValue specs => do
    let problems ← each (place ++ ".map")
      (fun place (spec : MapSpec) => .ok (sourceAndTarget place spec.source spec.target)) 0 specs
    .ok (ensure (!specs.isEmpty) place (.requires "mapValue" "'map' array") ++ problems
      ++ uniqueTargets place (specs.map (·.target)))
  | .sort by_ direction =>
    .ok (ensure (!by_.isEmpty) place (.requires "sort" "'by'")
      ++ ensure (direction == "asc" || direction == "desc") place (.badDirection direction))
  | .groupBy keys =>
    .ok (ensure (!keys.isEmpty && keys.all (!·.isEmpty)) place (.requires "groupBy" "'keys'")
      ++ ensure ((next.map Step.op) == some "aggregate") place .notAggregated)
  | .aggregate metrics => do
    let grouped := (previous.map Step.op) == some "groupBy"
    let problems ← each (place ++ ".metrics") metric 0 metrics
    .ok (ensure (!metrics.isEmpty || grouped) place (.requires "aggregate" "'metrics'") ++ problems
      ++ uniqueTargets place (metrics.map (·.target)))
  | .limit count =>
    .ok (ensure ((count.map fun n => decide (0 < n)).getD false) place .notPositive)

/-- The violations in the steps of a plan, numbered from `index`. -/
def steps (index : Nat) (previous : Option Step) : List Step → Check
  | [] => .ok []
  | current :: rest => do
    let problems ← step (itemPlace "steps" index) previous rest.head? current
    let more ← steps (index + 1) (some current) rest
    .ok (problems ++ more)

end Check

/-- Everything that is wrong with a plan. -/
def Plan.check (plan : Plan) : Check := do
  let problems ← Check.steps 0 none plan.steps
  let version :=
    if plan.version.isEmpty then [⟨"planVersion", .required⟩]
    else Check.ensure (plan.version == planVersion) "planVersion" (.wrongVersion plan.version)
  .ok (version ++ Check.ensure (!plan.recordPath.isEmpty) "source.recordPath" .required ++ problems)

/-- Why a plan is refused. -/
inductive PlanProblem where
  | shape (problem : ShapeProblem)
  | rule (problem : RuleProblem)

/-- The wording of a plan problem. -/
def PlanProblem.message : PlanProblem → String
  | .shape problem => problem.message
  | .rule problem => problem.message

/-- Why a plan cannot be loaded: it is refused, or an expression in it has an unreadable numeral, or it
cannot be said what is wrong. -/
inductive LoadError where
  | refused (problems : List PlanProblem)
  | numeral (error : NumeralError)
  | text (error : TextError)

/-- The wording of a list of problems. -/
def refusalMessage (problems : List String) : String :=
  "Plan validation failed: " ++ "; ".intercalate problems

/-- The wording of a load error. -/
def LoadError.message : LoadError → String
  | .refused problems => refusalMessage (problems.map PlanProblem.message)
  | .numeral error => error.message
  | .text error => error.message

/-- A reading error of a plan as a load error. -/
def LoadError.ofReadError : Plan.ReadError → LoadError
  | .malformed problems => .refused (problems.map .shape)
  | .text error => .text error

/-- Accept a plan that breaks no rule. -/
def Plan.validate (plan : Plan) : Except LoadError Plan :=
  match plan.check with
  | .error error => .error (.numeral error)
  | .ok [] => .ok plan
  | .ok problems => .error (.refused (problems.map .rule))

/-- Read a plan from a value without checking the rules. -/
def Plan.parse (value : Value) : Except LoadError Plan :=
  (Plan.read value).mapError .ofReadError

/-- Read a plan from a value and check it. -/
def Plan.load (value : Value) : Except LoadError Plan := (Plan.parse value).bind Plan.validate

end RowPlan
