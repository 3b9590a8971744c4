import RowPlan.Expr.Compare
import RowPlan.Expr.Parser
import RowPlan.Field.Resolution

/-!
# Evaluating expressions

The value of an expression on a row. Evaluation cannot fail: absent fields, operands without a
number and divisions by zero give null, and undecided comparisons are unknown. Only a bare field can
be absent as a whole.
-/

namespace RowPlan.Expr

/-- The operator of a binary expression applied to the values of its operands. -/
def applyBinary (op : BinaryOp) (left right : Option Value) : Value :=
  match op with
  | .and => Truth.toValue (Id.run (Truth.all [truth left, truth right]))
  | .or => Truth.toValue (Id.run (Truth.any [truth left, truth right]))
  | .compare op => Truth.toValue (op.apply left right)
  | .compute op => op.apply left right

/-- The value of an expression on a row. -/
def eval (row : Row) : Expr → Option Value
  | literal value => some value
  | field name => Field.lookup row name
  | neg operand => some ((((eval row operand).bind Value.toNumber?).map (.num ·.neg)).getD .null)
  | not operand => some (Truth.toValue (Truth.negate (truth (eval row operand))))
  | binary op left right => some (applyBinary op (eval row left) (eval row right))
  | ternary condition whenTrue whenFalse =>
    match truth (eval row condition) with
    | none => some .null
    | some true => eval row whenTrue
    | some false => eval row whenFalse

/-- The value of an expression as a field, null where it is absent. -/
def evalOrNull (row : Row) (expr : Expr) : Value := (eval row expr).getD .null

/-- The field names that an expression refers to, in order of first occurrence. -/
def references (expr : Expr) : List String := expr.occurrences.eraseDups

end RowPlan.Expr
