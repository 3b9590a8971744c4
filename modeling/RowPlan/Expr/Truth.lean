import RowPlan.Value.Basic

/-!
# Three-valued logic

A condition is true, false or unknown. Absent and null values are unknown, and an unknown part makes
the whole unknown unless another part decides it. The parts may be outcomes of some computation, which is
then carried out as far as the parts are asked for.
-/

namespace RowPlan

/-- The truth of a value that may be absent. -/
def truth : Option Value → Option Bool
  | none => none
  | some .null => none
  | some value => some value.isGiven

namespace Truth

section Joined

variable {m : Type → Type} [Monad m]

/-- Go through parts in order up to the first one with the deciding truth value, which is then that of
the whole. Later parts are not asked for. `pending` says whether a part before was unknown. -/
def decideBy (deciding pending : Bool) : List (m (Option Bool)) → m (Option Bool)
  | [] => pure (if pending then none else some !deciding)
  | part :: rest => do
    match ← part with
    | some truth => if truth = deciding then pure (some truth) else decideBy deciding pending rest
    | none => decideBy deciding true rest

/-- True if all are, false if one is false. -/
def all (parts : List (m (Option Bool))) : m (Option Bool) := decideBy false false parts

/-- True if one is, false if all are false. -/
def any (parts : List (m (Option Bool))) : m (Option Bool) := decideBy true false parts

end Joined

/-- The opposite; the unknown stays unknown. -/
def negate (part : Option Bool) : Option Bool := part.map (!·)

/-- A truth value as a value, the unknown as null. -/
def toValue : Option Bool → Value
  | some b => .bool b
  | none => .null

end Truth

end RowPlan
