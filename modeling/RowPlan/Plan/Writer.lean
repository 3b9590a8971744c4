import RowPlan.Plan.Basic
import RowPlan.Json.Writer

/-!
# Plans as values

The written form of a plan is an object with the members of each part in a fixed order; members that
have nothing to say are left out. A null operand of a condition says something, and is written after
the other members.
-/

namespace RowPlan

/-- A member that is written only if it has a value other than null. -/
def givenMember (key : String) (value : Option Value) : Row :=
  match value with
  | none => []
  | some .null => []
  | some value => [(key, value)]

/-- A member that was given as null. -/
def nullMember (key : String) (value : Option Value) : Row :=
  match value with
  | some .null => [(key, .null)]
  | _ => []

namespace Condition

mutual

/-- The written form of a condition. -/
def toValue : Condition → Value
  | node op left right items =>
    .obj ([("op", .str op)] ++ givenMember "left" left ++ givenMember "right" right
      ++ itemsMember items ++ nullMember "left" left ++ nullMember "right" right)

/-- The member with the parts of a condition, if given. -/
def itemsMember : Option (List Condition) → Row
  | none => []
  | some items => [("items", .arr (toValues items))]

/-- The written forms of several conditions. -/
def toValues : List Condition → List Value
  | [] => []
  | part :: rest => toValue part :: toValues rest

end

end Condition

namespace FieldSpec

/-- The written form of a field to copy. -/
def toValue (spec : FieldSpec) : Value :=
  .obj ([("from", .str spec.source), ("as", .str spec.target)]
    ++ givenMember "typeHint" (spec.typeHint.map .str))

end FieldSpec

namespace ComputeSpec

/-- The written form of a field to compute. -/
def toValue (spec : ComputeSpec) : Value :=
  .obj [("as", .str spec.target), ("expr", .str spec.expr)]

end ComputeSpec

namespace MapSpec

/-- The written form of a field to map. -/
def toValue (spec : MapSpec) : Value :=
  .obj ([("from", .str spec.source), ("as", .str spec.target), ("mapping", .obj spec.mapping)]
    ++ givenMember "default" spec.fallback)

end MapSpec

namespace MetricSpec

/-- The written form of an aggregate. -/
def toValue (spec : MetricSpec) : Value :=
  .obj ([("as", .str spec.target), ("fn", .str spec.function)]
    ++ givenMember "field" (spec.field.map .str) ++ givenMember "expr" (spec.expr.map .str))

end MetricSpec

namespace Filter

/-- The written form of what a filter keeps. -/
def toValue : Filter → Value
  | expr text => .str text
  | tree condition => condition.toValue

end Filter

namespace Step

/-- The members of a step besides its operation. -/
def members : Step → Row
  | select fields => [("fields", .arr (fields.map (·.toValue)))]
  | filter condition => givenMember "where" (condition.map (·.toValue))
  | compute specs => [("compute", .arr (specs.map (·.toValue)))]
  | mapValue specs => [("map", .arr (specs.map (·.toValue)))]
  | sort by_ direction => [("by", .str by_), ("dir", .str direction)]
  | groupBy keys => [("keys", .ofStrings keys)]
  | aggregate metrics => [("metrics", .arr (metrics.map (·.toValue)))]
  | limit count => givenMember "n" (count.map .ofInt)

/-- The written form of a step. -/
def toValue (step : Step) : Value := .obj (("op", .str step.op) :: step.members)

end Step

namespace Plan

/-- The written form of a plan. -/
def toValue (plan : Plan) : Value :=
  .obj [("planVersion", .str plan.version),
    ("source", .obj [("recordPath", .str plan.recordPath)]),
    ("steps", .arr (plan.steps.map (·.toValue)))]

/-- The JSON text of a plan. -/
def toJson (indent : Option Nat) (plan : Plan) : Except TextError String :=
  Json.writeWith indent plan.toValue

end Plan

end RowPlan
