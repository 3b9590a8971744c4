import Mathlib.Data.String.Basic
import RowPlan.Expr.Compare
import RowPlan.Proofs.Condition.Translation
import RowPlan.Proofs.Number.Finite
import RowPlan.Proofs.Sorting.Order
import RowPlan.Proofs.Value.Equality
import RowPlan.Records

/-!
# Comparisons cohere

Each comparison is decided by its own cases. What it comes to depends only on how the two values
relate: they have places in an order, or can only be told to be equal or different, or nothing can be
said of them. All six comparisons are verdicts on this one relation, and exchanging the values reverses
it, so that they fit together: none is known where its opposite is not, and two values in an order are
below, equal or above, and never two of these.
-/

namespace RowPlan

/-! ## Numbers in order -/

namespace Number

/-- A finite number has a finite place. -/
theorem exists_units {a : Number} (finite : a.isFinite = true) :
    ∃ units, a.place? = some (.finite units) := by
  cases a with
  | int n => exact ⟨_, rfl⟩
  | float x =>
      rw [isFinite, Decimal.isFinite] at finite
      rw [place?]
      cases parts : Decimal.parts x with
      | finite negative mantissa shift => exact ⟨_, rfl⟩
      | _ =>
          rw [parts] at finite
          cases finite

/-- Of two numbers at most one is below the other. -/
theorem lt_asymm {a b : Number} (below : a.lt b = true) : b.lt a = false :=
  SortKey.lt_asymm (a := .number a) (b := .number b) below

/-- Finite numbers are equal exactly if neither is below the other. -/
theorem same_eq_not_lt {a b : Number} (left : a.isFinite = true) (right : b.isFinite = true) :
    a.same b = (!a.lt b && !b.lt a) := by
  rcases exists_units left with ⟨m, leftPlace⟩
  rcases exists_units right with ⟨n, rightPlace⟩
  rw [Bool.eq_iff_iff]
  simp only [same, lt, Place.lt, leftPlace, rightPlace, beq_iff_eq, Option.some.injEq,
    Place.finite.injEq, Bool.and_eq_true, Bool.not_eq_true', decide_eq_false_iff_not]
  omega

end Number

namespace Comparison

/-! ## How two values relate -/

/-- How two values that may be absent relate: by their order, by whether they are equal, or not at
all. -/
inductive Relation where
  | placed (order : Ordering)
  | matched (same : Bool)
  | unrelated
deriving DecidableEq

/-- The order of two things, given whether the first is below the second and whether it is above. -/
def orderOf (below above : Bool) : Ordering := if below then .lt else if above then .gt else .eq

/-- The text that a value is. -/
def text? : Value → Option String
  | .str s => some s
  | _ => none

/-- The relation of two values. A number has a place among numbers and the numerals of texts, a text
among texts; null is equal to null alone. -/
def relation (left right : Value) : Relation :=
  if Records.isNull left || Records.isNull right then
    .matched (Records.isNull left && Records.isNull right)
  else if left.isNumber || right.isNumber then
    match left.toNumber?, right.toNumber? with
    | some a, some b => .placed (orderOf (a.lt b) (b.lt a))
    | _, _ => .unrelated
  else
    match text? left, text? right with
    | some s, some t => .placed (orderOf (s < t) (t < s))
    | _, _ => .matched (left.equal right)

/-- The relation of two values that may be absent. -/
def relation? : Option Value → Option Value → Relation
  | some left, some right => relation left right
  | _, _ => .unrelated

namespace Relation

/-- The relation with its sides exchanged. -/
def swap : Relation → Relation
  | placed order => placed order.swap
  | matched same => matched same
  | unrelated => unrelated

/-- What a comparison comes to. -/
def verdict (op : Comparison) : Relation → Option Bool
  | placed order =>
    some <| match op with
      | .eq => order == .eq
      | .neq => order != .eq
      | .gt => order == .gt
      | .gte => order != .lt
      | .lt => order == .lt
      | _ => order != .gt
  | matched same =>
    match op with
    | .eq => some same
    | .neq => some !same
    | _ => none
  | unrelated => none

end Relation

/-! ## Comparisons as verdicts -/

/-- Equality and the four comparisons that an order decides are verdicts on the order. -/
theorem verdict_placed
    (op : Comparison) {below above same : Bool}
    (asymm : below = true → above = false) (isSame : same = (!below && !above)) :
    (Relation.placed (orderOf below above)).verdict op =
      some (match op with
        | .eq => same
        | .neq => !same
        | _ => op.decideOrder below above) := by
  subst isSame
  cases op <;> cases below <;> cases above <;> first | rfl | cases asymm rfl

theorem isNull_eq_false {value : Value} (notNull : value = .null → False) :
    Records.isNull value = false := by
  cases value with
  | null => exact absurd rfl notNull
  | _ => rfl

/-- Comparisons of finite numbers are verdicts on their order. -/
theorem onNumbers_eq_verdict
    (op : Comparison) {a b : Number}
    (left : a.isFinite = true) (right : b.isFinite = true) :
    some (op.onNumbers a b) = (Relation.placed (orderOf (a.lt b) (b.lt a))).verdict op := by
  rw [verdict_placed op Number.lt_asymm (Number.same_eq_not_lt left right)]
  cases op <;> rfl

/-- Of two texts at most one is below the other. -/
theorem text_lt_asymm {s t : String} (below : decide (s < t) = true) : decide (t < s) = false :=
  decide_eq_false (String.lt_asymm (of_decide_eq_true below))

/-- Comparisons of texts are verdicts on their order. -/
theorem verdict_texts (op : Comparison) (s t : String) :
    (Relation.placed (orderOf (s < t) (t < s))).verdict op =
      some (match op with
        | .eq => s == t
        | .neq => !(s == t)
        | _ => op.onTexts s t) := by
  have isSame : (s == t) = (!decide (s < t) && !decide (t < s)) := by
    rw [Bool.eq_iff_iff, beq_iff_eq, Bool.and_eq_true, Bool.not_eq_true', Bool.not_eq_true',
      decide_eq_false_iff_not, decide_eq_false_iff_not, String.not_lt, String.not_lt,
      le_antisymm_iff, and_comm]
  rw [verdict_placed op text_lt_asymm isSame]
  cases op <;> rfl

/-- Each of the six comparisons of two values is a verdict on their relation. -/
theorem onValues_eq_verdict (op : Comparison) (left right : Value) :
    op.onValues left right = (relation left right).verdict op := by
  unfold onValues
  split
  case h_1 => cases op <;> rfl
  case h_2 notNull =>
    have present : Records.isNull right = false := isNull_eq_false fun isNull => notNull isNull
    rw [relation, present]
    cases op <;> rfl
  case h_3 notNull =>
    have present : Records.isNull left = false := isNull_eq_false fun isNull => notNull isNull
    rw [relation, present]
    cases op <;> rfl
  case h_4 leftNotNull rightNotNull _ =>
    rw [relation, isNull_eq_false leftNotNull, isNull_eq_false rightNotNull, Bool.or_false,
      if_neg Bool.false_ne_true]
    split
    case isTrue =>
      cases leftStands : left.toNumber? with
      | none => rfl
      | some a =>
        cases rightStands : right.toNumber? with
        | none => rfl
        | some b =>
          exact onNumbers_eq_verdict op (Value.isFinite_of_toNumber? leftStands)
            (Value.isFinite_of_toNumber? rightStands)
    case isFalse =>
      cases left with
      | str s =>
        cases right with
        | str t =>
          rw [text?, text?, verdict_texts op]
          cases op <;> rfl
        | _ => cases op <;> rfl
      | _ => cases op <;> rfl

/-- Each of the six comparisons is a verdict on how its sides relate. -/
theorem apply_eq_verdict (op : Comparison) (left right : Option Value) :
    op.apply left right = (relation? left right).verdict op := by
  cases left with
  | none => rfl
  | some a =>
    cases right with
    | none => rfl
    | some b => exact onValues_eq_verdict op a b

/-! ## Exchanging the sides -/

theorem orderOf_swap {below above : Bool} (asymm : below = true → above = false) :
    orderOf above below = (orderOf below above).swap := by
  cases below <;> cases above <;> first | rfl | cases asymm rfl

theorem equal_comm
    {left right : Value} (leftWellFormed : left.WellFormed) (rightWellFormed : right.WellFormed) :
    right.equal left = left.equal right :=
  Bool.eq_iff_iff.2 ⟨rightWellFormed.equal_symm, leftWellFormed.equal_symm⟩

/-- Exchanging two values reverses their relation. -/
theorem relation_swap
    {left right : Value} (leftWellFormed : left.WellFormed) (rightWellFormed : right.WellFormed) :
    relation right left = (relation left right).swap := by
  unfold relation
  rw [Bool.or_comm (Records.isNull right), Bool.and_comm (Records.isNull right),
    Bool.or_comm right.isNumber, equal_comm leftWellFormed rightWellFormed]
  split
  case isTrue => rfl
  case isFalse =>
    split
    case isTrue =>
      cases left.toNumber? with
      | none => cases right.toNumber? <;> rfl
      | some a =>
        cases right.toNumber? with
        | none => rfl
        | some b => exact congrArg Relation.placed (orderOf_swap Number.lt_asymm)
    case isFalse =>
      cases text? left with
      | none => cases text? right <;> rfl
      | some s =>
        cases text? right with
        | none => rfl
        | some t => exact congrArg Relation.placed (orderOf_swap text_lt_asymm)

theorem relation?_swap
    {left right : Option Value}
    (leftWellFormed : ∀ a, left = some a → a.WellFormed)
    (rightWellFormed : ∀ b, right = some b → b.WellFormed) :
    relation? right left = (relation? left right).swap := by
  cases left with
  | none => cases right <;> rfl
  | some a =>
    cases right with
    | none => rfl
    | some b => exact relation_swap (leftWellFormed a rfl) (rightWellFormed b rfl)

/-! ## Coherence -/

/-- The comparisons fit together, whichever values they are of: equality is symmetric and its negation
is inequality, above is below with the sides exchanged, the comparisons that admit equality are
negations of the strict ones, and of two values in an order exactly one of below, equal and above is
true and the other two are false. -/
theorem apply_coherent
    {left right : Option Value}
    (leftWellFormed : ∀ a, left = some a → a.WellFormed)
    (rightWellFormed : ∀ b, right = some b → b.WellFormed) :
    eq.apply right left = eq.apply left right ∧
      neq.apply left right = Truth.negate (eq.apply left right) ∧
      gt.apply left right = lt.apply right left ∧
      gte.apply left right = Truth.negate (lt.apply left right) ∧
      lte.apply left right = Truth.negate (gt.apply left right) ∧
      (lt.apply left right ≠ none →
        [lt.apply left right, eq.apply left right, gt.apply left right] ∈
          [[some true, some false, some false],
            [some false, some true, some false],
            [some false, some false, some true]]) := by
  simp only [apply_eq_verdict, relation?_swap leftWellFormed rightWellFormed]
  generalize relation? left right = relation
  cases relation with
  | placed order => cases order <;> decide
  | matched same => cases same <;> decide
  | unrelated => decide

/-- The number two is below the numeral ten, though as texts they would be in the other order. -/
theorem apply_coherent_numeral :
    lt.apply (some (.num (.int 2))) (some (.str "10")) = some true ∧
      eq.apply (some (.num (.int 2))) (some (.str "10")) = some false ∧
      gt.apply (some (.num (.int 2))) (some (.str "10")) = some false := by
  have known : lt.apply (some (.num (.int 2))) (some (.str "10")) = some true := by
    decide +kernel
  have number : ∀ a, some (Value.num (.int 2)) = some a → a.WellFormed := by
    rintro a ⟨⟩
    exact .num _
  have numeral : ∀ b, some (Value.str "10") = some b → b.WellFormed := by
    rintro b ⟨⟩
    exact .str _
  rcases apply_coherent number numeral with ⟨_, _, _, _, _, places⟩
  have placed := places (by rw [known]; exact Option.some_ne_none true)
  simpa [known] using placed

end Comparison

end RowPlan
