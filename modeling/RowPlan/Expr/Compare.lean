import RowPlan.Expr.Basic
import RowPlan.Expr.Truth

/-!
# Comparing and computing

Comparisons of values that may be absent, and arithmetic on them. A comparison is unknown when a side
is absent or the two sides have no common ground, such as a number and a text that is no numeral.
Arithmetic gives null where there is no finite result.
-/

namespace RowPlan

namespace Comparison

/-- Decide a comparison from whether the sides are in strict order and whether they are so in
reverse. -/
def decideOrder (op : Comparison) (below above : Bool) : Bool :=
  match op with
  | gt => above
  | gte => !below
  | lt => below
  | _ => !above

/-- Compare two finite numbers. -/
def onNumbers (op : Comparison) (a b : Number) : Bool :=
  match op with
  | eq => a.same b
  | neq => !a.same b
  | _ => op.decideOrder (a.lt b) (b.lt a)

/-- Order two texts by the codes of their characters. -/
def onTexts (op : Comparison) (a b : String) : Bool := op.decideOrder (a < b) (b < a)

/-- Compare two values by an order or by equality. -/
def onValues (op : Comparison) (left right : Value) : Option Bool :=
  match left, right with
  | .null, .null =>
    match op with
    | eq => some true
    | neq => some false
    | _ => none
  | .null, _ | _, .null =>
    match op with
    | eq => some false
    | neq => some true
    | _ => none
  | _, _ =>
    if left.isNumber || right.isNumber then
      match left.toNumber?, right.toNumber? with
      | some a, some b => some (op.onNumbers a b)
      | _, _ => none
    else
      match op with
      | eq => some (left.equal right)
      | neq => some (!left.equal right)
      | _ =>
        match left, right with
        | .str a, .str b => some (op.onTexts a b)
        | _, _ => none

/-- Compare two values that may be absent. -/
def apply (op : Comparison) (left right : Option Value) : Option Bool :=
  match left, right with
  | some a, some b => op.onValues a b
  | _, _ => none

end Comparison

namespace Arithmetic

/-- Compute with two numbers. -/
def onNumbers (op : Arithmetic) (a b : Number) : Option Number :=
  match op with
  | add => a.add? b
  | sub => a.sub? b
  | mul => a.mul? b
  | div => a.div? b
  | mod => a.mod? b

/-- Compute with two values that may be absent; null without a finite result. -/
def apply (op : Arithmetic) (left right : Option Value) : Value :=
  match left.bind Value.toNumber?, right.bind Value.toNumber? with
  | some a, some b => ((op.onNumbers a b).map Value.num).getD .null
  | _, _ => .null

end Arithmetic

end RowPlan
