import RowPlan.Expr.Basic

/-!
# Condition trees

A condition tree filters rows without an expression text. Its nodes name an operator: a test of a left
and a right operand, or `and`, `or`, `not` with a list of parts. An operand is a value or
a reference to a field, written as an object with the member `field`. The tree keeps whether an
operand was given, since a null operand is a value of its own.
-/

namespace RowPlan

/-- A condition tree as it was written; every node may carry any of the parts. -/
inductive Condition where
  | node (op : String) (left right : Option Value) (items : Option (List Condition))

namespace Condition

/-- The operator of a node. -/
def op : Condition → String
  | node op _ _ _ => op

/-- The left operand, if given. -/
def left : Condition → Option Value
  | node _ left _ _ => left

/-- The right operand, if given. -/
def right : Condition → Option Value
  | node _ _ right _ => right

/-- The parts of a node; none if they were left out. -/
def parts : Condition → List Condition
  | node _ _ _ items => items.getD []

/-- The field that an operand refers to, if it is a reference. -/
def reference? : Value → Option String
  | .obj members =>
    match members.lookup "field" with
    | some (.str name) => some name
    | _ => none
  | _ => none

mutual

/-- The field references of a condition, in order of occurrence. -/
def references : Condition → List String
  | node _ left right items =>
    (left.bind reference?).toList ++ (right.bind reference?).toList ++ optionalReferences items

/-- The field references of parts that may be left out. -/
def optionalReferences : Option (List Condition) → List String
  | none => []
  | some items => partReferences items

/-- The field references of several conditions. -/
def partReferences : List Condition → List String
  | [] => []
  | part :: rest => references part ++ partReferences rest

end

/-- The operators that join conditions. -/
def logicalOps : List String := ["and", "or", "not"]

/-- The operators that test two operands: the comparisons, and two that look into arrays and texts. -/
inductive Test where
  | compare (op : Comparison)
  | contains
  | within
deriving DecidableEq

namespace Test

/-- The name of a test. -/
def name : Test → String
  | compare op => op.name
  | contains => "contains"
  | within => "in"

/-- All tests, in the order in which messages list them. -/
def all : List Test := Comparison.all.map compare ++ [contains, within]

/-- The test of a name. A name of no test orders like `lte`. -/
def ofName (name : String) : Test := (all.find? (·.name == name)).getD (compare .lte)

end Test

end Condition

end RowPlan
