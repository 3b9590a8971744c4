import RowPlan.Condition.Basic

/-!
# Plans

A plan names the records of a document by a pointer and lists the steps that turn them into a table.
Plans are data: their expressions are texts, and a plan may be one that the plan rules refuse.
-/

namespace RowPlan

/-- The version of the plan format. -/
def planVersion : String := "1.0"

/-- A field to copy under a name. -/
structure FieldSpec where
  source : String
  target : String
  typeHint : Option String

/-- A field to compute by an expression. -/
structure ComputeSpec where
  target : String
  expr : String

/-- A field to map by a table from texts to values. The fallback stands for texts that the
table lacks; without one they keep their value. -/
structure MapSpec where
  source : String
  target : String
  mapping : Row
  fallback : Option Value

/-- An aggregate over the values of a field or of an expression. -/
structure MetricSpec where
  target : String
  function : String
  field : Option String
  expr : Option String

/-- What a filter keeps: rows on which an expression, or a condition tree, is true. -/
inductive Filter where
  | expr (text : String)
  | tree (condition : Condition)

/-- The operations of a plan. -/
inductive Step where
  | select (fields : List FieldSpec)
  | filter (condition : Option Filter)
  | compute (specs : List ComputeSpec)
  | mapValue (specs : List MapSpec)
  | sort (by_ : String) (direction : String)
  | groupBy (keys : List String)
  | aggregate (metrics : List MetricSpec)
  | limit (count : Option Int)

/-- The name of an operation. -/
def Step.op : Step → String
  | .select _ => "select"
  | .filter _ => "filter"
  | .compute _ => "compute"
  | .mapValue _ => "mapValue"
  | .sort .. => "sort"
  | .groupBy _ => "groupBy"
  | .aggregate _ => "aggregate"
  | .limit _ => "limit"

/-- The names of all operations, in the order in which messages list them. -/
def Step.ops : List String :=
  ["select", "filter", "compute", "mapValue", "sort", "groupBy", "aggregate", "limit"]

/-- The aggregate functions, in the order in which messages list them. -/
def aggregateFunctions : List String := ["sum", "count", "avg", "min", "max"]

/-- A plan: its format version, the pointer to the records, and the steps. -/
structure Plan where
  version : String
  recordPath : String
  steps : List Step

/-- The same plan for other records. -/
def Plan.withRecordPath (plan : Plan) (recordPath : String) : Plan :=
  { plan with recordPath := recordPath }

end RowPlan
