import RowPlan.Value.Basic

/-!
# Expressions

The abstract syntax of the expressions that compute fields and filter rows.
-/

namespace RowPlan

/-- The operators that compare two values. -/
inductive Comparison where
  | eq
  | neq
  | gt
  | gte
  | lt
  | lte
deriving DecidableEq

namespace Comparison

/-- The name of a comparison. -/
def name : Comparison → String
  | eq => "eq"
  | neq => "neq"
  | gt => "gt"
  | gte => "gte"
  | lt => "lt"
  | lte => "lte"

/-- All comparisons, in the order in which messages list them. -/
def all : List Comparison := [eq, neq, gt, gte, lt, lte]

end Comparison

/-- The operators that compute with two numbers. -/
inductive Arithmetic where
  | add
  | sub
  | mul
  | div
  | mod
deriving DecidableEq

namespace Arithmetic

/-- The sign of an operator. -/
def name : Arithmetic → String
  | add => "+"
  | sub => "-"
  | mul => "*"
  | div => "/"
  | mod => "%"

/-- All operators. -/
def all : List Arithmetic := [add, sub, mul, div, mod]

/-- The operator with a sign. -/
def ofName? (name : String) : Option Arithmetic := all.find? (·.name == name)

end Arithmetic

/-- The operators between two expressions. -/
inductive BinaryOp where
  | and
  | or
  | compare (op : Comparison)
  | compute (op : Arithmetic)
deriving DecidableEq

/-- The name of an operator. -/
def BinaryOp.name : BinaryOp → String
  | .and => "and"
  | .or => "or"
  | .compare op => op.name
  | .compute op => op.name

/-- An expression over the fields of a row. -/
inductive Expr where
  | literal (value : Value)
  | field (name : String)
  | neg (operand : Expr)
  | not (operand : Expr)
  | binary (op : BinaryOp) (left right : Expr)
  | ternary (condition whenTrue whenFalse : Expr)

namespace Expr

/-- Field names in order of occurrence, repeated ones included. -/
def occurrences : Expr → List String
  | literal _ => []
  | field name => [name]
  | neg operand => operand.occurrences
  | not operand => operand.occurrences
  | binary _ left right => left.occurrences ++ right.occurrences
  | ternary condition whenTrue whenFalse =>
    condition.occurrences ++ whenTrue.occurrences ++ whenFalse.occurrences

end Expr

end RowPlan
