import Mathlib.Data.List.Forall2
import RowPlan.Condition.Eval
import RowPlan.Proofs.Condition.Connectives

/-!
# Condition trees as expressions

A condition tree without `contains` and `in` says what an expression can say: a comparison becomes a
comparison of two operands, `and` and `or` join their parts from the left, and `not` stands before its
only part. The two are evaluated by different rules. A tree goes through all parts of a node up to the one
that decides, an expression joins them two at a time, and the truth of an expression passes through a value.

They agree all the same, the unknown included. Joining two at a time is joining all at once because the
three-valued connectives are associative, and the value of a truth has that truth.
-/

namespace RowPlan

/-! ## Connectives -/

namespace Truth

@[simp]
theorem truth_toValue (part : Option Bool) : truth (some (toValue part)) = part := by
  rcases part with _ | _ | _ <;> rfl

/-- A connective of lists that comes from an associative one of two truths. -/
structure Joins (join : List (Option Bool) → Option Bool) : Prop where
  single : ∀ part, join [part] = part
  cons : ∀ part rest, join (part :: rest) = join [part, join rest]
  assoc : ∀ first second third, join [join [first, second], third] = join [first, join [second, third]]

theorem joined_joins (deciding : Bool) : Joins (joined deciding false) where
  single part := by
    rcases part with _ | _ | _ <;> cases deciding <;> rfl
  cons part rest := by
    rw [joined_cons, joined_cons]
    split
    · rfl
    · rw [joined_cons]
      by_cases decides : some deciding ∈ rest
      · simp [joined, decides]
      · by_cases unknown : none ∈ rest <;> rcases part with _ | _ | _ <;> cases deciding <;>
          simp_all [joined]
  assoc first second third := by
    rcases first with _ | _ | _ <;> rcases second with _ | _ | _ <;>
      rcases third with _ | _ | _ <;> cases deciding <;> rfl

theorem Joins.nested
    {join : List (Option Bool) → Option Bool} (joins : Joins join)
    (first second : Option Bool) (rest : List (Option Bool)) :
    join (join [first, second] :: rest) = join (first :: second :: rest) := by
  calc
    join (join [first, second] :: rest) = join [join [first, second], join rest] := joins.cons _ _
    _ = join [first, join [second, join rest]] := joins.assoc _ _ _
    _ = join [first, join (second :: rest)] := by rw [joins.cons second rest]
    _ = join (first :: second :: rest) := (joins.cons _ _).symm

end Truth

/-- An operator between expressions whose truth is a connective of the truths of its operands. -/
def BinaryOp.Denotes (op : BinaryOp) (join : List (Option Bool) → Option Bool) : Prop :=
  ∀ left right, truth (some (Expr.applyBinary op left right)) = join [truth left, truth right]

theorem BinaryOp.and_denotes : BinaryOp.and.Denotes (Truth.joined false false) := fun left right =>
  (Truth.truth_toValue _).trans
    (congrArg Id.run (Truth.all_map_pure (m := Id) [truth left, truth right]))

theorem BinaryOp.or_denotes : BinaryOp.or.Denotes (Truth.joined true false) := fun left right =>
  (Truth.truth_toValue _).trans
    (congrArg Id.run (Truth.any_map_pure (m := Id) [truth left, truth right]))

/-- Joining expressions from the left joins the truths of all of them. -/
theorem Expr.truth_foldl
    {op : BinaryOp} {join : List (Option Bool) → Option Bool} (denotes : op.Denotes join)
    (joins : Truth.Joins join) (row : Row) (first : Expr) (rest : List Expr) :
    truth ((rest.foldl (.binary op) first).eval row) =
      join (truth (first.eval row) :: rest.map fun expr => truth (expr.eval row)) := by
  induction rest generalizing first with
  | nil => exact (joins.single _).symm
  | cons second rest later =>
      rw [List.foldl_cons, later, List.map_cons, ← joins.nested]
      exact congrArg (fun part => join (part :: _)) (denotes _ _)

namespace Condition

/-! ## Translation -/

/-- The expression of an operand: a field for a reference, a literal for any other value. -/
def operandExpr (written : Option Value) : Expr :=
  match written.bind reference? with
  | some name => .field name
  | none => .literal (written.getD .null)

/-- Expressions joined by an operator from the left; there has to be one. -/
def joinLeft? (op : BinaryOp) : List Expr → Option Expr
  | [] => none
  | first :: rest => some (rest.foldl (.binary op) first)

/-- The opposite of a single expression. -/
def negation? : List Expr → Option Expr
  | [inner] => some (.not inner)
  | _ => none

mutual

/-- The expression that a condition tree stands for, if there is one. -/
def toExpr? : Condition → Option Expr
  | node op left right items =>
    if op = "and" then (optionalExprs? items).bind (joinLeft? .and)
    else if op = "or" then (optionalExprs? items).bind (joinLeft? .or)
    else if op = "not" then (optionalExprs? items).bind negation?
    else
      (Comparison.all.find? (·.name == op)).map fun op =>
        .binary (.compare op) (operandExpr left) (operandExpr right)

/-- The expressions of parts that may be left out. -/
def optionalExprs? : Option (List Condition) → Option (List Expr)
  | none => some []
  | some items => partExprs? items

/-- The expressions of several conditions. -/
def partExprs? : List Condition → Option (List Expr)
  | [] => some []
  | part :: rest =>
    match toExpr? part, partExprs? rest with
    | some expr, some others => some (expr :: others)
    | _, _ => none

end

/-- Trees of comparisons, of conjunctions and disjunctions of at least one part, and of negations of exactly
one. What a node holds besides plays no role. -/
inductive Expressible : Condition → Prop where
  | comparison {left right items} (op : Comparison) : Expressible (.node op.name left right items)
  | joined {op left right items} :
      op = "and" ∨ op = "or" → items ≠ [] → (∀ item ∈ items, Expressible item) →
      Expressible (.node op left right (some items))
  | negation {left right item} :
      Expressible item → Expressible (.node "not" left right (some [item]))

/-- A condition and an expression that have the same truth on every row. -/
def Agrees (tree : Condition) (expr : Expr) : Prop :=
  ∀ row, tree.eval row = .ok (truth (expr.eval row))

/-! ## Agreement -/

theorem eval_operandExpr (row : Row) (written : Option Value) :
    (operandExpr written).eval row = operand row written := by
  cases written with
  | none => rfl
  | some value =>
      cases value with
      | obj members =>
          simp only [operandExpr, operand, Option.bind_some, Option.getD_some]
          cases reference? (.obj members) <;> rfl
      | _ => rfl

theorem comparison_name (op : Comparison) :
    (op.name ≠ "and" ∧ op.name ≠ "or" ∧ op.name ≠ "not") ∧
      Comparison.all.find? (·.name == op.name) = some op ∧ Test.ofName op.name = .compare op := by
  cases op <;> decide

theorem toExpr?_comparison
    (op : Comparison) (left right : Option Value) (items : Option (List Condition)) :
    ∃ expr, (node op.name left right items).toExpr? = some expr ∧
      (node op.name left right items).Agrees expr := by
  rcases comparison_name op with ⟨⟨notAnd, notOr, notNot⟩, found, named⟩
  refine ⟨.binary (.compare op) (operandExpr left) (operandExpr right), ?_, ?_⟩
  · rw [toExpr?, if_neg notAnd, if_neg notOr, if_neg notNot, found]
    rfl
  · intro row
    rw [eval, if_neg notAnd, if_neg notOr, if_neg notNot, named, Expr.eval, eval_operandExpr,
      eval_operandExpr]
    exact congrArg Except.ok (Truth.truth_toValue _).symm

theorem partExprs?_of_each
    {items : List Condition}
    (each : ∀ item ∈ items, ∃ expr, item.toExpr? = some expr ∧ item.Agrees expr) :
    ∃ exprs, partExprs? items = some exprs ∧ List.Forall₂ Agrees items exprs := by
  induction items with
  | nil => exact ⟨[], rfl, .nil⟩
  | cons item rest later =>
      rw [List.forall_mem_cons] at each
      rcases each with ⟨⟨expr, itemExpr, agrees⟩, eachLater⟩
      rcases later eachLater with ⟨exprs, restExprs, restAgree⟩
      exact ⟨expr :: exprs, by simp only [partExprs?, itemExpr, restExprs], .cons agrees restAgree⟩

theorem evalParts_of_agree
    {items : List Condition} {exprs : List Expr} (agree : List.Forall₂ Agrees items exprs)
    (row : Row) :
    evalParts row items = (exprs.map fun expr => truth (expr.eval row)).map pure := by
  induction agree with
  | nil => rfl
  | cons agrees _ later => rw [evalParts, agrees row, later, List.map_cons, List.map_cons]; rfl

/-- Parts that each agree with an expression agree, joined, with the expressions joined from the left. -/
theorem joinLeft?_agrees
    {op : BinaryOp} {deciding : Bool} (denotes : op.Denotes (Truth.joined deciding false))
    {items : List Condition} (nonempty : items ≠ [])
    (each : ∀ item ∈ items, ∃ expr, item.toExpr? = some expr ∧ item.Agrees expr) :
    ∃ expr, (partExprs? items).bind (joinLeft? op) = some expr ∧
      ∀ row, Truth.decideBy deciding false (evalParts row items) = .ok (truth (expr.eval row)) := by
  rcases partExprs?_of_each each with ⟨exprs, partExprs, agree⟩
  rw [partExprs]
  cases exprs with
  | nil =>
      cases agree
      exact absurd rfl nonempty
  | cons first rest =>
      refine ⟨_, rfl, ?_⟩
      intro row
      rw [Expr.truth_foldl denotes (Truth.joined_joins deciding), evalParts_of_agree agree,
        Truth.decideBy_map_pure, List.map_cons]
      rfl

/--
Every tree of comparisons, conjunctions, disjunctions and negations stands for an expression, and has on
every row the truth of that expression: true, false or unknown.
-/
theorem eval_eq_truth_toExpr
    {tree : Condition} (expressible : tree.Expressible) :
    ∃ expr, tree.toExpr? = some expr ∧ ∀ row, tree.eval row = .ok (truth (expr.eval row)) := by
  induction expressible with
  | comparison op => exact toExpr?_comparison op _ _ _
  | joined joins nonempty _ each =>
      rcases joins with rfl | rfl
      · rcases joinLeft?_agrees BinaryOp.and_denotes nonempty each with
          ⟨expr, joined, same⟩
        refine ⟨expr, ?_, ?_⟩
        · rw [toExpr?, if_pos rfl]
          exact joined
        · intro row
          rw [eval, if_pos rfl]
          exact same row
      · rcases joinLeft?_agrees BinaryOp.or_denotes nonempty each with
          ⟨expr, joined, same⟩
        refine ⟨expr, ?_, ?_⟩
        · rw [toExpr?, if_neg (by decide), if_pos rfl]
          exact joined
        · intro row
          rw [eval, if_neg (by decide), if_pos rfl]
          exact same row
  | @negation left right item _ inner =>
      rcases inner with ⟨expr, itemExpr, agrees⟩
      refine ⟨.not expr, ?_, ?_⟩
      · rw [toExpr?, if_neg (by decide), if_neg (by decide), if_pos rfl, optionalExprs?, partExprs?,
          itemExpr, partExprs?]
        rfl
      · intro row
        rw [eval, if_neg (by decide), if_neg (by decide), if_pos rfl, Expr.eval,
          Truth.truth_toValue, evalOptional, evalParts, agrees row]
        rfl

/-- `price > 10 and not (status == 'closed' or stock < 3)`; with a null stock it is unknown. -/
theorem eval_eq_truth_toExpr_unknown_stock :
    let fieldNamed (name : String) := some (Value.obj [("field", .str name)])
    let price := node "gt" (fieldNamed "price") (some (.ofNat 10)) none
    let status := node "eq" (fieldNamed "status") (some (.str "closed")) none
    let stock := node "lt" (fieldNamed "stock") (some (.ofNat 3)) none
    let excluded := node "not" none none (some [node "or" none none (some [status, stock])])
    let tree := node "and" none none (some [price, excluded])
    let expr :=
      Expr.binary .and (.binary (.compare .gt) (.field "price") (.literal (.ofNat 10)))
        (.not
          (.binary .or (.binary (.compare .eq) (.field "status") (.literal (.str "closed")))
            (.binary (.compare .lt) (.field "stock") (.literal (.ofNat 3)))))
    let row : Row := [("price", .ofNat 12), ("status", .str "open"), ("stock", .null)]
    tree.Expressible ∧ tree.toExpr? = some expr ∧
      (∀ row, tree.eval row = .ok (truth (expr.eval row))) ∧ tree.eval row = .ok none := by
  intro fieldNamed price status stock excluded tree expr row
  have comparison (op : Comparison) (left right : Option Value) :
      Expressible (.node op.name left right none) := .comparison op
  have either : Expressible (.node "or" none none (some [status, stock])) := by
    refine .joined (.inr rfl) (by decide) ?_
    rintro item (_ | ⟨_, _ | ⟨_, ⟨⟩⟩⟩)
    · exact comparison .eq _ _
    · exact comparison .lt _ _
  have expressible : tree.Expressible := by
    refine .joined (.inl rfl) (by simp) ?_
    rintro item (_ | ⟨_, _ | ⟨_, ⟨⟩⟩⟩)
    · exact comparison .gt _ _
    · exact .negation either
  rcases eval_eq_truth_toExpr expressible with ⟨found, translated, agrees⟩
  have same : found = expr := Option.some.inj (translated.symm.trans rfl)
  exact ⟨expressible, rfl, same ▸ agrees, by decide +kernel⟩

end Condition

end RowPlan
