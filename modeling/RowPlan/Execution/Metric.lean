import RowPlan.Value.Basic

/-!
# Aggregate functions

An aggregate is computed from the values of the rows of a group that stand for numbers; all others
are left out. Sums run from left to right and are exact as long as all numbers are integers. Without
numbers a sum is zero and every other aggregate null, and so is a result that is not finite.
-/

namespace RowPlan.Metric

/-- The numbers among some values. -/
def numbers (values : List (Option Value)) : List Number :=
  values.filterMap fun value => value.bind Value.toNumber?

/-- The sum of some numbers. -/
def sum? (items : List Number) : Option Number :=
  items.foldlM (fun total item => total.add? item) (Number.int 0)

/-- The mean of some numbers. -/
def mean? (items : List Number) : Option Number :=
  (sum? items).bind fun total => total.div? (.int items.length)

/-- The first of the smallest numbers. -/
def least? : List Number → Option Number
  | [] => none
  | first :: rest => some (rest.foldl (fun best item => if item.lt best then item else best) first)

/-- The first of the greatest numbers. -/
def greatest? : List Number → Option Number
  | [] => none
  | first :: rest => some (rest.foldl (fun best item => if best.lt item then item else best) first)

/-- A number as a value, null without one. -/
def orNull (number : Option Number) : Value := (number.map .num).getD .null

/-- Compute an aggregate function over the values of a group of `count` rows. A function that does not
exist is only noticed when there are numbers. -/
def compute (function : String) (values : List (Option Value)) (count : Nat) :
    Except String Value :=
  let items := numbers values
  match function with
  | "count" => .ok (.ofNat count)
  | "sum" => .ok (orNull (sum? items))
  | "avg" => .ok (orNull (if items.isEmpty then none else mean? items))
  | "min" => .ok (orNull (least? items))
  | "max" => .ok (orNull (greatest? items))
  | _ => if items.isEmpty then .ok .null else .error function

end RowPlan.Metric
