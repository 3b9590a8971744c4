import RowPlan.Condition.Eval
import RowPlan.Execution.Metric
import RowPlan.Execution.Order
import RowPlan.Plan.Check
import RowPlan.Records

/-!
# Steps on rows

What each operation of a plan does to the rows. Field names are resolved once against the first row
and read from every row; what the resolution has to say is noted. Grouping leaves the rows alone and
hands its groups to the aggregation that follows.

A step can go wrong through a fault of the plan, such as an expression that does not parse. The only
values that stop one are those without a text, where a mapping or a test for containment needs it.
-/

namespace RowPlan

/-- What stops a step. -/
inductive StepError where
  | expression (error : ExprError)
  | noCondition
  | noMetricField
  | unknownFunction (name : String)
  | text (error : TextError)

/-- The wording of a step error. -/
def StepError.message : StepError → String
  | .expression error => error.message
  | .noCondition => "A filter needs a condition"
  | .noMetricField => "A metric needs a field or an expression"
  | .unknownFunction name => s!"Unknown aggregate function: {name}"
  | .text error => error.message

/-- Rows that agree on all keys, with the row of their key values. -/
structure Group where
  key : Row
  rows : List Row

/-- What a plan works on: rows, and the groups that a grouping has made of them. -/
structure State where
  rows : List Row
  groups : Option (List Group)

/-- A step gives a new state and notes on the fields that it resolved. -/
abbrev StepResult := Except StepError (State × List Field.Note)

namespace StepResult

/-- Parse an expression of a plan. -/
def parseExpr (text : String) : Except StepError Expr := (Expr.parse text).mapError .expression

/-- The notes on some references. -/
def notesOn (references : List String) (sample : Row) : List Field.Note :=
  references.filterMap fun reference => (Field.resolve reference sample).note

/-- Copy fields under names. -/
def select (fields : List FieldSpec) (state : State) : StepResult :=
  if state.rows.isEmpty then .ok (state, [])
  else
    let sample := Records.sample state.rows
    let resolved := fields.map fun spec => (spec.target, Field.resolve spec.source sample)
    let project (row : Row) : Row :=
      Row.ofPairs (resolved.map fun (target, resolution) =>
        (target, Field.readOrNull row resolution))
    .ok ({ state with rows := state.rows.map project }, resolved.filterMap (·.2.note))

/-- A filter that is ready to run: the fields that it refers to, and its truth on a row. -/
def compileFilter (filter : Filter) :
    Except StepError (List String × (Row → Except TextError (Option Bool))) :=
  match filter with
  | .expr text =>
    (parseExpr text).map fun expr => (expr.references, fun row => .ok (truth (expr.eval row)))
  | .tree condition => .ok (condition.references, fun row => condition.eval row)

/-- The rows on which a condition is true. -/
def keepRows (holds : Row → Except TextError (Option Bool)) : List Row → Except TextError (List Row)
  | [] => .ok []
  | row :: rest => do
    let truth ← holds row
    let kept ← keepRows holds rest
    .ok (if truth = some true then row :: kept else kept)

/-- Keep the rows on which a condition is true. -/
def filter (condition : Option Filter) (state : State) : StepResult :=
  if state.rows.isEmpty then .ok (state, [])
  else
    match condition with
    | none => .error .noCondition
    | some filter => do
      let (references, holds) ← compileFilter filter
      let kept ← (keepRows holds state.rows).mapError .text
      .ok ({ state with rows := kept }, notesOn references (Records.sample state.rows))

/-- Compute fields one after the other; each sees the fields computed before it. -/
def computeRow (specs : List (String × Expr)) (row : Row) : Row :=
  specs.foldl (fun row (spec : String × Expr) => row.set spec.1 (spec.2.evalOrNull row)) row

/-- The notes on the fields that computed fields refer to. A field computed before counts as there,
and a field of exactly the name needs no resolution. -/
def computeNotes (sample : Row) : List (String × Expr) → List Field.Note
  | [] => []
  | (target, expr) :: rest =>
    notesOn (expr.references.filter fun reference => !sample.has reference) sample
      ++ computeNotes (sample.set target .null) rest

/-- Parse the expressions of computed fields. -/
def compileSpecs (specs : List ComputeSpec) : Except StepError (List (String × Expr)) :=
  specs.mapM fun spec => (parseExpr spec.expr).map fun expr => (spec.target, expr)

/-- Add computed fields to every row. -/
def compute (specs : List ComputeSpec) (state : State) : StepResult :=
  if state.rows.isEmpty then .ok (state, [])
  else do
    let compiled ← compileSpecs specs
    .ok ({ state with rows := state.rows.map (computeRow compiled) },
      computeNotes (Records.sample state.rows) compiled)

/-- What a value is mapped to: by the table if it has the text of the value, else the fallback if
there is one, else the value itself. -/
def mapped (spec : MapSpec) (value : Value) : Except TextError Value := do
  let text ← value.display
  .ok (match spec.mapping.find? text with
    | some image => image
    | none => spec.fallback.getD value)

/-- Add mapped fields to a row; all of them are read from the row as it was. -/
def mapRow (specs : List (MapSpec × Field.Resolution)) (row : Row) : Except TextError Row := do
  let fields ← specs.mapM fun (spec, resolution) =>
    (mapped spec (Field.readOrNull row resolution)).map fun image => (spec.target, image)
  .ok (row.setAll fields)

/-- Add mapped fields to every row. -/
def mapValue (specs : List MapSpec) (state : State) : StepResult :=
  if state.rows.isEmpty then .ok (state, [])
  else do
    let sample := Records.sample state.rows
    let resolved := specs.map fun spec => (spec, Field.resolve spec.source sample)
    let rows ← (state.rows.mapM (mapRow resolved)).mapError .text
    .ok ({ state with rows }, resolved.filterMap (·.2.note))

/-- Rows in the order of a field, the rows that cannot be sorted by it last. -/
def sortRows (resolution : Field.Resolution) (descending : Bool) (rows : List Row) : List Row :=
  let keyed := rows.map fun row => (SortKey.ofValue? (Field.read row resolution), row)
  let sortable := keyed.filterMap fun (key, row) => key.map fun key => (key, row)
  let trailing := keyed.filterMap fun (key, row) => if key.isNone then some row else none
  (Sorting.byKey descending sortable).map (·.2) ++ trailing

/-- Sort the rows by a field. -/
def sort (by_ direction : String) (state : State) : StepResult :=
  if state.rows.isEmpty then .ok (state, [])
  else
    let resolution := Field.resolve by_ (Records.sample state.rows)
    .ok ({ state with rows := sortRows resolution (direction == "desc") state.rows },
      resolution.note.toList)

/-- Whether two lists of key values agree item by item. -/
def sameKeys (left right : List Value) : Bool := Value.equalItems left right

/-- Put a row into the group of its key values, a new one at the end if there is none. -/
def addToGroups (names : List String) (values : List Value) (row : Row)
    (groups : List (List Value × Group)) : List (List Value × Group) :=
  match groups with
  | [] => [(values, ⟨Row.ofPairs (names.zip values), [row]⟩)]
  | (key, group) :: rest =>
    if sameKeys key values then (key, { group with rows := group.rows ++ [row] }) :: rest
    else (key, group) :: addToGroups names values row rest

/-- Groups of rows that agree on the given fields, in order of their first rows. -/
def groupRows (keys : List (String × Field.Resolution)) (rows : List Row) : List Group :=
  let names := keys.map (·.1)
  let grouped := rows.foldl
    (fun groups row =>
      addToGroups names (keys.map fun key => Field.readOrNull row key.2) row groups) []
  grouped.map (·.2)

/-- The column name of a grouping key: the last segment of the field that it stands for. -/
def keyName (key : String) (resolution : Field.Resolution) : String :=
  let segment := Pointer.lastSegment resolution.path
  if segment.isEmpty then key else segment

/-- Group the rows by keys. -/
def groupBy (keys : List String) (state : State) : StepResult :=
  let sample := Records.sample state.rows
  let resolved := keys.map fun key =>
    let resolution := Field.resolve key sample
    (keyName key resolution, resolution)
  .ok ({ state with groups := some (groupRows resolved state.rows) },
    if state.rows.isEmpty then [] else resolved.filterMap (·.2.note))

/-- Whether an optional text says something. -/
def given? (text : Option String) : Option String := text.filter (!·.isEmpty)

/-- The values that a metric is computed from, one for each row of a group. -/
def metricValues (metric : MetricSpec) (sample : Row) (rows : List Row) :
    Except StepError (List (Option Value)) :=
  match given? metric.expr with
  | some text => (parseExpr text).map fun expr => rows.map fun row => some (expr.evalOrNull row)
  | none =>
    match metric.field with
    | some field =>
      let resolution := Field.resolve field sample
      .ok (rows.map fun row => Field.read row resolution)
    | none => .error .noMetricField

/-- The value of a metric for a group. -/
def metricValue (metric : MetricSpec) (sample : Row) (rows : List Row) : Except StepError Value := do
  let values ←
    if metric.function = "count" then .ok [] else metricValues metric sample rows
  (Metric.compute metric.function values rows.length).mapError .unknownFunction

/-- The output row of a group: its key and its metrics. -/
def groupRow (metrics : List MetricSpec) (sample : Row) (group : Group) : Except StepError Row :=
  metrics.foldlM
    (fun (row : Row) (metric : MetricSpec) => do
      let value ← metricValue metric sample group.rows
      .ok (row.set metric.target value))
    group.key

/-- The fields that metrics read directly. -/
def metricFields (metrics : List MetricSpec) : List String :=
  metrics.filterMap fun metric =>
    if metric.function != "count" && (given? metric.expr).isNone then given? metric.field else none

/-- Turn groups, or else all rows together, into one row each. -/
def aggregate (metrics : List MetricSpec) (state : State) : StepResult := do
  let sample := Records.sample state.rows
  let groups := state.groups.getD [⟨[], state.rows⟩]
  let rows ← groups.mapM (groupRow metrics sample)
  .ok (⟨rows, none⟩, if state.rows.isEmpty then [] else notesOn (metricFields metrics) sample)

/-- Keep the first rows. -/
def limit (count : Option Int) (state : State) : StepResult :=
  match count with
  | some count => .ok ({ state with rows := firstRows count state.rows }, [])
  | none => .ok (state, [])

end StepResult

/-- What a step does to a state. -/
def Step.run : Step → State → StepResult
  | .select fields => StepResult.select fields
  | .filter condition => StepResult.filter condition
  | .compute specs => StepResult.compute specs
  | .mapValue specs => StepResult.mapValue specs
  | .sort by_ direction => StepResult.sort by_ direction
  | .groupBy keys => StepResult.groupBy keys
  | .aggregate metrics => StepResult.aggregate metrics
  | .limit count => StepResult.limit count

end RowPlan
