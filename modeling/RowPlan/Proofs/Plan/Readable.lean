import RowPlan.Proofs.Execution.Progress
import RowPlan.Proofs.Plan.Report

/-!
# Readable plans

Expressions fail to parse in two ways. A syntax error is a violation of the plan rules like any
other; a numeral that cannot be read ends the check, and with it whatever needed the plan. In a
readable plan the second does not happen, so the check of a plan that nobody has looked at before
comes to an end. If it breaks no rule, so does its run, unless a value without a text stops it; otherwise
there is a report.
-/

namespace RowPlan

open Outcome (FailsFor)

/-- An expression text that parses or has a syntax error. -/
def Expr.Readable (text : String) : Prop := ∀ error, Expr.parse text ≠ .error (.numeral error)

/-- A plan in which every expression parses or has a syntax error. -/
def Plan.Readable (plan : Plan) : Prop :=
  ∀ step ∈ plan.steps, ∀ text ∈ step.texts, Expr.Readable text

/-! ## The texts of a plan -/

theorem flatMap_zipIdx {α β : Type} (f : α → List β) (items : List α) :
    items.zipIdx.flatMap (fun placed => f placed.1) = items.flatMap f := by
  rw [← List.flatMap_map Prod.fst f, List.zipIdx_map_fst]

theorem Step.map_placedTexts (step : Step) (place : String) :
    (step.placedTexts place).map Prod.snd = step.texts := by
  cases step with
  | filter condition =>
      cases condition with
      | none => rfl
      | some kept => cases kept <;> rfl
  | compute specs =>
      rw [placedTexts, texts, List.map_flatMap, List.map_eq_flatMap]
      exact flatMap_zipIdx (fun spec : ComputeSpec => [spec.expr]) specs
  | aggregate metrics =>
      rw [placedTexts, texts, List.map_flatMap, List.filterMap_eq_flatMap_toList,
        ← flatMap_zipIdx fun metric : MetricSpec => metric.expr.toList]
      simp [Function.comp_def]
  | _ => rfl

theorem Plan.map_placedTexts (plan : Plan) :
    plan.placedTexts.map Prod.snd = plan.steps.flatMap Step.texts := by
  rw [placedTexts, List.map_flatMap, ← flatMap_zipIdx Step.texts]
  simp [Step.map_placedTexts]

theorem Plan.exists_placed_iff
    {plan : Plan} {text : String} :
    (∃ place, (place, text) ∈ plan.placedTexts) ↔ ∃ step ∈ plan.steps, text ∈ step.texts := by
  rw [← List.mem_flatMap, ← plan.map_placedTexts, List.mem_map]
  simp

namespace Plan

/-- In a valid plan every expression parses. -/
theorem Valid.readable {plan : Plan} (valid : plan.Valid) : plan.Readable := by
  intro step member text textMember error failed
  rcases valid.steps.step member with ⟨_, _, stepValid⟩
  rcases stepValid.text textMember with ⟨_, expr, parsed⟩
  cases parsed.symm.trans failed

/-- The check of a plan comes to an end exactly when the plan is readable. -/
theorem readable_iff_check_ends {plan : Plan} :
    plan.Readable ↔ ∃ problems, plan.check = .ok problems := by
  constructor
  · intro readable
    cases checked : plan.check with
    | ok problems => exact ⟨problems, rfl⟩
    | error error =>
        rcases List.exists_of_findSome?_eq_some ((plan.check_reports.stopped error).1 checked) with
          ⟨⟨place, text⟩, placed, stopped⟩
        rcases exists_placed_iff.1 ⟨place, placed⟩ with ⟨step, member, textMember⟩
        have parses := readable step member text textMember error
        exact absurd (Check.stops?_eq_some_iff.1 stopped) parses
  · rintro ⟨problems, checked⟩ step member text textMember error failed
    rcases exists_placed_iff.2 ⟨step, member, textMember⟩ with ⟨place, placed⟩
    cases first : plan.placedTexts.findSome? fun placed => Check.stops? placed.2 with
    | none =>
        have silent := List.findSome?_eq_none_iff.1 first _ placed
        cases silent.symm.trans (Check.stops?_eq_some_iff.2 failed)
    | some error => cases checked.symm.trans ((plan.check_reports.stopped error).2 first)

/-- A readable plan is accepted or refused. -/
theorem Readable.validate_cases
    {plan : Plan} (readable : plan.Readable) :
    (plan.validate = .ok plan ∧ plan.Valid) ∨
      ∃ problems, plan.validate = .error (.refused problems) := by
  rcases readable_iff_check_ends.1 readable with ⟨problems, checked⟩
  cases problems with
  | nil =>
      have valid := plan.check_eq_nil_iff.1 checked
      exact .inl ⟨(plan.validate_eq_ok_iff plan).2 ⟨rfl, valid⟩, valid⟩
  | cons problem rest => exact .inr ⟨_, by rw [validate, checked]⟩

/-- A readable plan that is not valid is reported on, whatever the document. -/
theorem Readable.execute_of_not_valid
    {plan : Plan} (readable : plan.Readable) (notValid : ¬ plan.Valid) (document : Value) (maxRows : Int) :
    ∃ problems, plan.execute document maxRows = .ok (.failed (.plan problems)) := by
  rcases readable.validate_cases with ⟨_, valid⟩ | ⟨problems, refused⟩
  · exact absurd valid notValid
  · exact ⟨problems, by rw [execute, refused]⟩

/-- The only failure of a readable plan is a text that is lacking where a valid plan comes to it. -/
theorem Readable.execute_fails
    {plan : Plan} (readable : plan.Readable) (document : Value) (maxRows : Int) :
    FailsFor (plan.execute document maxRows) (.text .tooManyDigits)
      (plan.Valid ∧ plan.StopsOn document maxRows) := by
  by_cases valid : plan.Valid
  · rw [valid.execute_eq]
    exact (valid.runOn_fails document maxRows).congr (and_iff_right valid).symm
  · rcases readable.execute_of_not_valid valid document maxRows with ⟨problems, failed⟩
    rw [failed]
    exact (FailsFor.ok _ _).congr (by simp [valid])

end Plan

end RowPlan
