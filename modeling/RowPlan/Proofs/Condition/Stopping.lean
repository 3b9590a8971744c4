import RowPlan.Condition.Eval
import RowPlan.Proofs.Condition.Connectives
import RowPlan.Proofs.Value.Writable

/-!
# Conditions that a value stops

A condition tree is evaluated on whatever a row holds, with one exception: a test for containment turns
its operands into text, and a value in which an integer has too many digits has no text. Evaluation stops
there, and only there. It does not always come there: a conjunction ends at the first part that is false,
a disjunction at the first one that is true, and a negation looks at its first part only.
-/

namespace RowPlan

open Outcome (FailsFor Succeeds)

namespace Condition

/-! ## Tests -/

/-- Operands of which a test for containment needs the texts, though not both have one. -/
def Test.LacksText (left right : Option Value) : Prop :=
  ∃ a b, left = some a ∧ right = some b ∧ a ≠ .null ∧ b ≠ .null ∧ (∀ items, a ≠ .arr items) ∧
    ¬ (a.Writable ∧ b.Writable)

theorem Test.succeeds_containment_iff (left right : Value) :
    Succeeds (containment left right) ↔ ¬ LacksText (some left) (some right) := by
  unfold containment
  split
  · simp [LacksText]
  · simp [LacksText]
  · simp [LacksText]
  · rename_i leftNotNull notArray rightNotNull
    have needed : LacksText (some left) (some right) ↔ ¬ (left.Writable ∧ right.Writable) := by
      constructor
      · rintro ⟨_, _, ⟨⟩, ⟨⟩, _, _, _, beyond⟩
        exact beyond
      · intro beyond
        exact ⟨left, right, rfl, rfl, leftNotNull, rightNotNull, notArray, beyond⟩
    rw [needed, not_not, and_comm, Outcome.succeeds_bind_iff, ← Value.succeeds_display_iff right,
      ← Value.succeeds_display_iff left]
    simp only [Outcome.succeeds_bind_ok_iff, exists_and_right]
    rfl

/-- A test fails if and only if it is for containment and lacks a text. -/
theorem Test.succeeds_apply_iff (test : Test) (left right : Option Value) :
    Succeeds (test.apply left right) ↔ ¬ (test = .contains ∧ LacksText left right) := by
  cases test with
  | compare op => simp [apply]
  | within => cases left <;> cases right <;> simp [apply]
  | contains =>
      cases left with
      | none => simp [apply, LacksText]
      | some a =>
          cases right with
          | none => simp [apply, LacksText]
          | some b => simpa [apply] using succeeds_containment_iff a b

theorem Test.ofName_eq_contains_iff (name : String) : ofName name = .contains ↔ name = "contains" := by
  constructor
  · intro isContains
    cases found : all.find? (·.name == name) with
    | none =>
        rw [ofName, found] at isContains
        cases isContains
    | some test =>
        rw [ofName, found] at isContains
        cases isContains
        have named := List.find?_some found
        exact (beq_iff_eq.1 named).symm
  · rintro rfl
    decide

/-! ## Trees -/

theorem evalParts_eq_map (row : Row) (parts : List Condition) :
    evalParts row parts = parts.map fun part => part.eval row := by
  induction parts with
  | nil => rfl
  | cons part rest later => rw [evalParts, later, List.map_cons]

theorem evalOptional_eq_map (row : Row) (items : Option (List Condition)) :
    evalOptional row items = (items.getD []).map fun part => part.eval row := by
  cases items with
  | none => rfl
  | some items => exact evalParts_eq_map row items

/-- Evaluating a condition on a row comes to a test for containment that lacks a text. -/
inductive Stops (row : Row) : Condition → Prop where
  | test {left right items} :
      Test.LacksText (operand row left) (operand row right) →
      Stops row (.node "contains" left right items)
  | joined {op deciding left right before part after} :
      op = "and" ∧ deciding = false ∨ op = "or" ∧ deciding = true →
      (∀ earlier ∈ before, Truth.Undecided deciding (earlier.eval row)) → Stops row part →
      Stops row (.node op left right (some (before ++ part :: after)))
  | negation {left right part rest} :
      Stops row part → Stops row (.node "not" left right (some (part :: rest)))

/-- Joined parts fail where the loop over them comes to a part that fails. -/
theorem exists_part_of_decideBy_eq_error
    {row : Row} {deciding : Bool} {parts : List Condition} {error : TextError}
    (failed : Truth.decideBy deciding false (parts.map fun part => part.eval row) = .error error) :
    ∃ before part after, parts = before ++ part :: after ∧ part.eval row = .error error ∧
      ∀ earlier ∈ before, Truth.Undecided deciding (earlier.eval row) := by
  rcases Truth.decideBy_eq_error_iff.1 failed with ⟨outcomes, later, split, undecided⟩
  rcases List.map_eq_append_iff.1 split with ⟨before, others, rfl, rfl, rest⟩
  rcases List.map_eq_cons_iff.1 rest with ⟨part, after, rfl, partFailed, rfl⟩
  exact ⟨before, part, after, rfl, partFailed, List.forall_mem_map.1 undecided⟩

/-- A node stops evaluation if this comes to a test without a text, or to a part that stops it. -/
theorem stops_of_parts
    {row : Row} {op : String} {left right : Option Value} {items : Option (List Condition)}
    (partStops : ∀ parts, items = some parts → ∀ part ∈ parts, ¬ Succeeds (part.eval row) →
      part.Stops row)
    {error : TextError} (failed : (node op left right items).eval row = .error error) :
    (node op left right items).Stops row := by
  have joined (deciding : Bool) (joins : op = "and" ∧ deciding = false ∨ op = "or" ∧ deciding = true)
      (failed : Truth.decideBy deciding false (evalOptional row items) = .error error) :
      (node op left right items).Stops row := by
    cases items with
    | none => cases failed
    | some parts =>
        rw [evalOptional, evalParts_eq_map] at failed
        rcases exists_part_of_decideBy_eq_error failed with
          ⟨before, part, after, rfl, partFailed, undecided⟩
        refine .joined joins undecided (partStops _ rfl part (by simp) ?_)
        exact partFailed ▸ Outcome.not_succeeds_error error
  rw [eval] at failed
  split at failed
  · rename_i conjunction
    exact joined false (.inl ⟨conjunction, rfl⟩) failed
  · split at failed
    · rename_i disjunction
      exact joined true (.inr ⟨disjunction, rfl⟩) failed
    · split at failed
      · rename_i negation
        subst negation
        rcases items with _ | _ | ⟨part, rest⟩
        · cases failed
        · cases failed
        · have partFailed : part.eval row = .error error := Outcome.map_eq_error_iff.1 failed
          refine .negation (partStops _ rfl part List.mem_cons_self ?_)
          exact partFailed ▸ Outcome.not_succeeds_error error
      · have stopped : ¬ Succeeds ((Test.ofName op).apply (operand row left) (operand row right)) :=
          failed ▸ Outcome.not_succeeds_error error
        rw [Test.succeeds_apply_iff, not_not, Test.ofName_eq_contains_iff] at stopped
        rcases stopped with ⟨rfl, lacks⟩
        exact .test lacks

mutual

theorem stops_of_not_succeeds {row : Row} :
    (tree : Condition) → ¬ Succeeds (tree.eval row) → tree.Stops row
  | .node op left right none, fails => by
      cases evaluated : (node op left right none).eval row with
      | ok truth => exact absurd ⟨truth, evaluated⟩ fails
      | error error => exact stops_of_parts nofun evaluated
  | .node op left right (some items), fails => by
      cases evaluated : (node op left right (some items)).eval row with
      | ok truth => exact absurd ⟨truth, evaluated⟩ fails
      | error error =>
          refine stops_of_parts ?_ evaluated
          rintro _ ⟨⟩
          exact part_stops_of_not_succeeds items

theorem part_stops_of_not_succeeds {row : Row} :
    (parts : List Condition) → ∀ part ∈ parts, ¬ Succeeds (part.eval row) → part.Stops row
  | [] => nofun
  | first :: rest =>
      List.forall_mem_cons.2 ⟨stops_of_not_succeeds first, part_stops_of_not_succeeds rest⟩

end

theorem Stops.not_succeeds {row : Row} {tree : Condition} (stops : tree.Stops row) :
    ¬ Succeeds (tree.eval row) := by
  have failedAt {outcome : Except TextError (Option Bool)} (fails : ¬ Succeeds outcome) :
      outcome = .error .tooManyDigits := by
    cases outcome with
    | ok truth => exact absurd (Outcome.succeeds_ok truth) fails
    | error error => rfl
  induction stops with
  | test lacks =>
      rw [eval, if_neg (by decide), if_neg (by decide), if_neg (by decide), Test.succeeds_apply_iff,
        not_not]
      exact ⟨by decide, lacks⟩
  | @joined op deciding left right before part after joins undecided _ partFails =>
      have fails :
          Truth.decideBy deciding false ((before ++ part :: after).map fun part => part.eval row) =
            .error .tooManyDigits := by
        refine Truth.decideBy_eq_error_iff.2
          ⟨before.map fun part => part.eval row, after.map fun part => part.eval row, ?_,
            List.forall_mem_map.2 undecided⟩
        rw [List.map_append, List.map_cons, failedAt partFails]
      have evaluated :
          (node op left right (some (before ++ part :: after))).eval row = .error .tooManyDigits := by
        rw [← fails, eval, evalOptional, evalParts_eq_map]
        rcases joins with ⟨rfl, rfl⟩ | ⟨rfl, rfl⟩
        · rw [if_pos rfl]
          rfl
        · rw [if_neg (by decide), if_pos rfl]
          rfl
      exact evaluated ▸ Outcome.not_succeeds_error _
  | negation _ partFails =>
      rw [eval, if_neg (by decide), if_neg (by decide), if_pos rfl]
      exact Outcome.succeeds_map_iff.not.2 partFails

/-- The only failure of a condition is a text that is lacking, where evaluation comes to it. -/
theorem eval_fails (tree : Condition) (row : Row) :
    FailsFor (tree.eval row) .tooManyDigits (tree.Stops row) := by
  refine TextError.failsFor ?_
  by_cases succeeds : Succeeds (tree.eval row)
  · exact iff_of_true succeeds fun stops => stops.not_succeeds succeeds
  · exact iff_of_false succeeds (not_not.2 (stops_of_not_succeeds tree succeeds))

end Condition

end RowPlan
