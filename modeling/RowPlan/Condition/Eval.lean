import RowPlan.Condition.Basic
import RowPlan.Expr.Eval
import RowPlan.Value.Display

/-!
# Evaluating conditions

The truth of a condition tree on a row: true, false or unknown. An operator that is neither logical
nor the name of a test orders its operands like `lte`. Only the test for containment can fail, where it
needs the text of a value that has none; it is carried out only if no part before it decides.
-/

namespace RowPlan.Condition

namespace Test

/-- Whether an array has an item equal to a value, or else whether the text of one value occurs in
the text of another in any case. -/
def containment (left right : Value) : Except TextError (Option Bool) :=
  match left, right with
  | .null, _ | _, .null => .ok none
  | .arr items, _ => .ok (some (items.any (·.equal right)))
  | _, _ => do
    let part ← right.display
    let text ← left.display
    .ok (some (Text.contains (Text.caseFold text) (Text.caseFold part)))

/-- Whether a value compares as equal to an item of an array. -/
def membership (left right : Value) : Option Bool :=
  match right with
  | .arr items => some (items.any fun item => Comparison.eq.onValues left item == some true)
  | _ => none

/-- Test two values that may be absent. -/
def apply (test : Test) (left right : Option Value) : Except TextError (Option Bool) :=
  match test, left, right with
  | compare op, _, _ => .ok (op.apply left right)
  | contains, some a, some b => containment a b
  | within, some a, some b => .ok (membership a b)
  | _, _, _ => .ok none

end Test

/-- The value of an operand on a row; an operand that was left out is null. -/
def operand (row : Row) (written : Option Value) : Option Value :=
  match written.getD .null with
  | .obj members =>
    match reference? (.obj members) with
    | some name => Field.lookup row name
    | none => some (.obj members)
  | value => some value

mutual

/-- The truth of a condition on a row. -/
def eval (row : Row) : Condition → Except TextError (Option Bool)
  | node op left right items =>
    if op = "and" then Truth.all (evalOptional row items)
    else if op = "or" then Truth.any (evalOptional row items)
    else if op = "not" then ((evalOptional row items).head?.getD (.ok none)).map Truth.negate
    else (Test.ofName op).apply (operand row left) (operand row right)

/-- The truth of parts that may be left out. -/
def evalOptional (row : Row) : Option (List Condition) → List (Except TextError (Option Bool))
  | none => []
  | some items => evalParts row items

/-- The truth of several conditions. -/
def evalParts (row : Row) : List Condition → List (Except TextError (Option Bool))
  | [] => []
  | part :: rest => eval row part :: evalParts row rest

end

end RowPlan.Condition
