import RowPlan.Execution.Step
import RowPlan.Proofs.Condition.Translation
import RowPlan.Proofs.Outcome

/-!
# Conditions read only the fields that they refer to

The references of an expression, of a condition tree and of a filter are collected apart from their
evaluation. Nothing else is read: two rows on which every collected reference has the same value give
the same result, however they differ otherwise. What a filter does not report cannot decide which rows
it keeps.
-/

namespace RowPlan

/-- Two rows on which some field references have the same values, or are absent alike. -/
def Row.SameAt (references : List String) (row other : Row) : Prop :=
  ∀ reference ∈ references, Field.lookup row reference = Field.lookup other reference

namespace Row.SameAt

variable {row other : Row} {first second : List String}

theorem append_iff :
    row.SameAt (first ++ second) other ↔ row.SameAt first other ∧ row.SameAt second other :=
  List.forall_mem_append

theorem eraseDups_iff {references : List String} :
    row.SameAt references.eraseDups other ↔ row.SameAt references other :=
  forall_congr' fun _ => imp_congr_left List.mem_eraseDups

end Row.SameAt

variable {row other : Row}

/-! ## Expressions -/

namespace Expr

theorem eval_eq_of_occurrences
    {expr : Expr} (same : row.SameAt expr.occurrences other) :
    expr.eval row = expr.eval other := by
  induction expr with
  | literal value => rfl
  | field name => exact same name List.mem_cons_self
  | neg operand inner => rw [eval, eval, inner same]
  | not operand inner => rw [eval, eval, inner same]
  | binary op left right leftSame rightSame =>
      rw [occurrences, Row.SameAt.append_iff] at same
      rw [eval, eval, leftSame same.1, rightSame same.2]
  | ternary condition whenTrue whenFalse conditionSame trueSame falseSame =>
      rw [occurrences, Row.SameAt.append_iff, Row.SameAt.append_iff] at same
      rw [eval, eval, conditionSame same.1.1, trueSame same.1.2, falseSame same.2]

/-- An expression depends only on the fields that it refers to. -/
theorem eval_eq_of_references
    {expr : Expr} (same : row.SameAt expr.references other) :
    expr.eval row = expr.eval other :=
  eval_eq_of_occurrences (Row.SameAt.eraseDups_iff.1 same)

end Expr

/-! ## Condition trees -/

namespace Condition

theorem occurrences_operandExpr (written : Option Value) :
    (operandExpr written).occurrences = (written.bind reference?).toList := by
  rw [operandExpr]
  cases written.bind reference? <;> rfl

theorem operand_eq_of_references
    {written : Option Value} (same : row.SameAt (written.bind reference?).toList other) :
    operand row written = operand other written := by
  rw [← occurrences_operandExpr] at same
  rw [← eval_operandExpr, ← eval_operandExpr]
  exact Expr.eval_eq_of_occurrences same

mutual

/-- A condition tree depends only on the fields that it refers to. -/
theorem eval_eq_of_references :
    (tree : Condition) → row.SameAt tree.references other → tree.eval row = tree.eval other
  | .node op left right items, same => by
      rw [references, Row.SameAt.append_iff, Row.SameAt.append_iff] at same
      rcases same with ⟨⟨leftSame, rightSame⟩, itemsSame⟩
      rw [eval, eval, evalOptional_eq_of_references items itemsSame,
        operand_eq_of_references leftSame, operand_eq_of_references rightSame]

theorem evalOptional_eq_of_references :
    (items : Option (List Condition)) → row.SameAt (optionalReferences items) other →
      evalOptional row items = evalOptional other items
  | none, _ => rfl
  | some items, same => evalParts_eq_of_references items same

theorem evalParts_eq_of_references :
    (items : List Condition) → row.SameAt (partReferences items) other →
      evalParts row items = evalParts other items
  | [], _ => rfl
  | part :: rest, same => by
      rw [partReferences, Row.SameAt.append_iff] at same
      rw [evalParts, evalParts, eval_eq_of_references part same.1,
        evalParts_eq_of_references rest same.2]

end

end Condition

/-! ## Filters -/

namespace StepResult

theorem compileFilter_expr
    {text : String} {expr : Expr} (parsed : Expr.parse text = .ok expr) :
    compileFilter (.expr text) =
      .ok (expr.references, fun row => .ok (truth (expr.eval row))) := by
  rw [compileFilter, parseExpr, parsed]
  rfl

/-- A filter, as a text or as a tree, keeps, drops or stops at two rows alike on which the fields that it
refers to are the same. -/
theorem holds_eq_of_references
    {filter : Filter} {references : List String} {holds : Row → Except TextError (Option Bool)}
    (compiled : compileFilter filter = .ok (references, holds)) (same : row.SameAt references other) :
    holds row = holds other := by
  cases filter with
  | expr text =>
      rcases Outcome.map_eq_ok_iff.1 compiled with ⟨expr, _, made⟩
      cases made
      exact congrArg (fun value => Except.ok (truth value)) (Expr.eval_eq_of_references same)
  | tree condition =>
      cases compiled
      exact condition.eval_eq_of_references same

end StepResult

/--
Expressions and conditions depend only on the fields that they refer to: on two rows on which these
fields have the same values, an expression has the same value and a filter the same truth, or the same
value without a text stops it.
-/
theorem results_depend_on_references :
    (∀ (expr : Expr) (row other : Row), row.SameAt expr.references other →
      expr.eval row = expr.eval other) ∧
    ∀ (filter : Filter) (references : List String) (holds : Row → Except TextError (Option Bool)),
      StepResult.compileFilter filter = .ok (references, holds) →
        ∀ row other, row.SameAt references other → holds row = holds other :=
  ⟨fun _ _ _ => Expr.eval_eq_of_references,
    fun _ _ _ compiled _ _ => StepResult.holds_eq_of_references compiled⟩

/-- Rows with the same price and nothing else in common are alike to a text and to a tree that refer to
the price only. -/
theorem results_depend_on_references_price :
    let row : Row := [("name", .str "pen"), ("price", .ofNat 12)]
    let other : Row := [("price", .ofNat 12), ("stock", .null)]
    let double := Expr.binary (.compute .mul) (.field "price") (.literal (.ofNat 2))
    let tree := Condition.node "gt" (some (.obj [("field", .str "price")])) (some (.ofNat 10)) none
    row.SameAt ["price"] other ∧ double.eval row = double.eval other ∧
      tree.eval row = tree.eval other ∧
      ∃ holds, StepResult.compileFilter (.expr "price > 10") = .ok (["price"], holds) ∧
        holds row = holds other := by
  intro row other double tree
  have same : row.SameAt ["price"] other := by
    intro reference member
    rw [List.mem_singleton.1 member]
    subst row other
    rfl
  have parses : ∃ expr, Expr.parse "price > 10" = .ok expr ∧ expr.references = ["price"] := by
    have reads : (Expr.parse "price > 10").toOption.map Expr.references = some ["price"] := by
      decide +kernel
    cases parsed : Expr.parse "price > 10" with
    | error error =>
        rw [parsed] at reads
        cases reads
    | ok expr =>
        rw [parsed] at reads
        exact ⟨expr, rfl, Option.some.inj reads⟩
  rcases parses with ⟨expr, parsed, reads⟩
  have compiled := StepResult.compileFilter_expr parsed
  rw [reads] at compiled
  rcases results_depend_on_references with ⟨ofExprs, ofFilters⟩
  refine ⟨same, ofExprs double row other same, ?_, _, compiled, ?_⟩
  · exact ofFilters (.tree tree) _ _ rfl row other same
  · exact ofFilters (.expr "price > 10") _ _ compiled row other same

end RowPlan
