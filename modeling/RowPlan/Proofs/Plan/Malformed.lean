import RowPlan.Proofs.Plan.Readable
import RowPlan.Proofs.Plan.Reading

/-!
# Malformed plans

A value given as a plan is loaded, refused with its problems, or something in it is converted that cannot be:
an expression has a numeral that cannot be read, or an operation that has to be quoted has no text. These
are no problems that are reported: loading and running end with an error. Whatever else is wrong with the
value or with an expression in it is reported, and the run has an outcome, unless the rows of a loaded plan
come to a value without a text.
-/

namespace RowPlan

open Outcome (FailsFor Succeeds)

/-- A value that reads as a plan with an expression in which the scanner comes to a numeral that
cannot be read. -/
def Plan.HasUnreadableNumeral (value : Value) : Prop :=
  ∃ plan place text, Plan.read value = .ok plan ∧ (place, text) ∈ plan.placedTexts ∧
    Expr.Unreadable text

/-- A value with a step that names, as its operation, something that would have to be quoted and has no
text. -/
def Plan.HasUnwritableOp (value : Value) : Prop :=
  ∃ (members : Row) (steps : List Value) (step : Row),
    value = .obj members ∧ members.find? "steps" = some (.arr steps) ∧ .obj step ∈ steps ∧
      ¬ (Step.opOf step).Writable

theorem Expr.readable_iff (text : String) : Expr.Readable text ↔ ¬Expr.Unreadable text := by
  rw [← Expr.parse_stops_iff, not_exists, Expr.Readable]

theorem Plan.hasUnreadableNumeral_iff
    {value : Value} {plan : Plan} (read : Plan.read value = .ok plan) :
    Plan.HasUnreadableNumeral value ↔ ¬plan.Readable := by
  constructor
  · rintro ⟨other, place, text, otherRead, placed, unreadable⟩ readable
    cases read.symm.trans otherRead
    rcases Plan.exists_placed_iff.1 ⟨place, placed⟩ with ⟨step, member, textMember⟩
    exact (Expr.readable_iff text).1 (readable step member text textMember) unreadable
  · intro notReadable
    simp only [Plan.Readable, not_forall] at notReadable
    rcases notReadable with ⟨step, member, text, textMember, unreadable⟩
    rcases Plan.exists_placed_iff.2 ⟨step, member, textMember⟩ with ⟨place, placed⟩
    rw [Expr.readable_iff, not_not] at unreadable
    exact ⟨plan, place, text, read, placed, unreadable⟩

/-- Loading ends with the error of a numeral exactly when there is one that cannot be read. -/
theorem Plan.load_stops_iff
    {value : Value} :
    (∃ error, Plan.load value = .error (.numeral error)) ↔ Plan.HasUnreadableNumeral value := by
  constructor
  · rintro ⟨error, stopped⟩
    rcases (Plan.load_eq_numeral_iff value error).1 stopped with ⟨plan, read, checked⟩
    rw [Plan.hasUnreadableNumeral_iff read, Plan.readable_iff_check_ends]
    rintro ⟨problems, ended⟩
    cases checked.symm.trans ended
  · intro hasUnreadable
    have unreadable := hasUnreadable
    rcases hasUnreadable with ⟨plan, _, _, read, _⟩
    rw [Plan.hasUnreadableNumeral_iff read, Plan.readable_iff_check_ends] at unreadable
    cases checked : plan.check with
    | ok problems => exact absurd ⟨problems, checked⟩ unreadable
    | error error => exact ⟨error, (Plan.load_eq_numeral_iff value error).2 ⟨plan, read, checked⟩⟩

/-! ## Operations without a text -/

/-- What does not count as given can be written. -/
theorem Value.writable_of_not_isGiven {value : Value} (missing : value.isGiven = false) :
    value.Writable := by
  cases value with
  | num n =>
      cases n with
      | int n =>
          have isZero : (Number.int n).isZero = true := by simpa [Value.isGiven] using missing
          rw [(Number.isZero_int_iff n).1 isZero, Value.writable_num_iff]
          exact (Decimal.writable_iff_lt 0).2 (Nat.pow_pos (by decide))
      | float x => exact .num trivial
  | arr items => simp_all [Value.isGiven]
  | obj members => simp_all [Value.isGiven]
  | _ => simp

theorem Step.opProblem?_fails (index : Nat) (step : Value) :
    FailsFor (opProblem? index step) .tooManyDigits
      (∃ members, step = .obj members ∧ ¬ (opOf members).Writable) := by
  refine TextError.failsFor ?_
  cases step with
  | obj members =>
      simp only [opProblem?, Value.obj.injEq, exists_eq_left', not_not]
      split
      · rename_i missing
        exact iff_of_true (Outcome.succeeds_ok _)
          (Value.writable_of_not_isGiven (by simpa using missing))
      · cases opOf members with
        | str name => simp
        | _ => simp only [Outcome.succeeds_map_iff, Value.succeeds_text_iff]
  | _ => simp [opProblem?]

theorem Step.opProblems_fails (index : Nat) (steps : List Value) :
    FailsFor (opProblems index steps) .tooManyDigits
      (∃ step ∈ steps, ∃ members, step = .obj members ∧ ¬ (opOf members).Writable) := by
  refine TextError.failsFor ?_
  induction steps generalizing index with
  | nil => simp [opProblems]
  | cons step rest later =>
      rw [opProblems, Outcome.succeeds_bind_iff]
      simp only [Outcome.succeeds_bind_ok_iff, exists_and_right, later, List.mem_cons,
        exists_eq_or_imp, not_or]
      exact and_congr_left' (opProblem?_fails index step).succeeds_iff

/-- The steps of a plan are not looked at to the end if and only if an operation has to be quoted in vain. -/
theorem Plan.read_eq_text_iff {value : Value} :
    (∃ error, Plan.read value = .error (.text error)) ↔ Plan.HasUnwritableOp value := by
  have ofMembers (members : Row) :
      (∃ error, Plan.read (.obj members) = .error (.text error)) ↔
        ¬ Succeeds (Plan.stepProblems members) := by
    rw [Plan.read]
    rcases Plan.stepProblems members with error | _ | ⟨problem, others⟩
    · simp
    · cases Plan.readMembers members <;> simp
    · simp
  cases value with
  | obj members =>
      rw [ofMembers, Plan.stepProblems, HasUnwritableOp]
      simp only [Value.obj.injEq, exists_and_left, exists_eq_left']
      cases Row.find? members "steps" with
      | none => simp
      | some steps =>
          cases steps with
          | arr steps =>
              simp only [(Step.opProblems_fails 0 steps).succeeds_iff, not_not, Option.some.injEq,
                Value.arr.injEq, exists_eq_left']
              constructor
              · rintro ⟨_, member, step, rfl, beyond⟩
                exact ⟨step, member, beyond⟩
              · rintro ⟨step, member, beyond⟩
                exact ⟨_, member, step, rfl, beyond⟩
          | _ => simp
  | _ => exact iff_of_false (by simp [Plan.read]) (by simp [HasUnwritableOp])

theorem Plan.load_eq_text_iff {value : Value} :
    (∃ error, Plan.load value = .error (.text error)) ↔ Plan.HasUnwritableOp value := by
  rw [← Plan.read_eq_text_iff, Plan.load, Plan.parse]
  cases Plan.read value with
  | error error => cases error <;> simp [Except.mapError, Except.bind, LoadError.ofReadError]
  | ok plan =>
      constructor
      · rintro ⟨error, failed⟩
        change plan.validate = .error (.text error) at failed
        rw [Plan.validate] at failed
        split at failed <;> cases failed
      · rintro ⟨_, impossible⟩
        cases impossible

/-! ## Values given as plans -/

/-- What becomes of a value that is given as a plan. -/
structure Plan.Reported (value : Value) : Prop where
  /-- It is loaded or refused unless an expression in it has an unreadable numeral or an operation that has to
  be quoted has no text. -/
  loaded :
    ((∃ plan, Plan.load value = .ok plan) ∨
        ∃ problems, Plan.load value = .error (.refused problems)) ↔
      ¬Plan.HasUnreadableNumeral value ∧ ¬Plan.HasUnwritableOp value
  /-- It has an outcome on a document under the same condition, unless the run of the loaded plan comes to a
  value without a text. -/
  executed :
    ∀ document maxRows,
      (∃ execution, RowPlan.execute value document maxRows = .ok execution) ↔
        ¬Plan.HasUnreadableNumeral value ∧ ¬Plan.HasUnwritableOp value ∧
          ∀ plan, Plan.load value = .ok plan → ¬plan.StopsOn document maxRows
  /-- The outcome of a refused plan is the list of its problems. -/
  refused :
    ∀ problems, Plan.load value = .error (.refused problems) →
      ∀ document maxRows, RowPlan.execute value document maxRows = .ok (.failed (.plan problems))
  /-- When the check comes to an end, each expression text that does not parse is among its
  problems. -/
  listed :
    ∀ plan problems, Plan.read value = .ok plan → plan.check = .ok problems →
      ∀ place text, (place, text) ∈ plan.placedTexts →
        ∀ error, Expr.parse text = .error error →
          if Text.isBlankText text then ⟨place, .requiresExpr⟩ ∈ problems
          else ⟨place, .badExpression error.message⟩ ∈ problems

theorem Plan.execute_of_load_eq_error
    {value : Value} {error : LoadError} (failed : Plan.load value = .error error)
    (document : Value) (maxRows : Int) :
    RowPlan.execute value document maxRows =
      match error with
      | .refused problems => .ok (.failed (.plan problems))
      | .numeral error => .error (.expression (.numeral error))
      | .text error => .error (.text error) := by
  rw [Plan.load] at failed
  rw [RowPlan.execute]
  cases parsed : Plan.parse value with
  | error parseError =>
      rw [parsed] at failed
      cases failed
      cases error <;> rfl
  | ok plan =>
      rw [parsed] at failed
      change plan.validate = .error error at failed
      dsimp only
      rw [Plan.execute, failed]
      cases error <;> rfl

theorem Plan.execute_of_load_eq_ok
    {value : Value} {plan : Plan} (loaded : Plan.load value = .ok plan) (document : Value)
    (maxRows : Int) :
    FailsFor (RowPlan.execute value document maxRows) (.text .tooManyDigits)
      (plan.StopsOn document maxRows) := by
  rcases (Plan.load_eq_ok_iff value plan).1 loaded with ⟨read, valid⟩
  have parsed : Plan.parse value = .ok plan := Outcome.mapError_eq_ok_iff.2 read
  rw [RowPlan.execute, parsed]
  dsimp only
  rw [valid.execute_eq]
  exact valid.runOn_fails document maxRows

/--
Whatever is given as a plan, it is loaded or refused, and its run has an outcome on every document, unless
an expression in it has a numeral that cannot be read, an operation that has to be quoted has no text, or the
run comes to a value without one; what is refused is reported with its problems, and among them is every
expression text that does not parse, at its place.
-/
theorem Plan.malformed_reported (value : Value) : Plan.Reported value where
  loaded := by
    rw [← Plan.load_stops_iff, ← Plan.load_eq_text_iff]
    cases Plan.load value with
    | ok plan => simp
    | error error => cases error <;> simp
  executed document maxRows := by
    rw [← Plan.load_stops_iff, ← Plan.load_eq_text_iff]
    cases loaded : Plan.load value with
    | ok plan =>
        rw [← Outcome.Succeeds, (Plan.execute_of_load_eq_ok loaded document maxRows).succeeds_iff]
        simp
    | error error =>
        rw [Plan.execute_of_load_eq_error loaded]
        cases error <;> simp
  refused problems refused := Plan.execute_of_load_eq_error refused
  listed plan problems read checked place text placed error failed := by
    have member {violation : Violation} (complains : Check.complaint? text = some violation) :=
      plan.check_reports.mem_of_complaint checked placed complains
    split
    · rename_i blank
      exact member (by rw [Check.complaint?, if_pos blank])
    · rename_i given
      exact member (by rw [Check.complaint?, if_neg given, failed])

/-! ## A numeral that escapes -/

set_option maxRecDepth 100000 in
theorem Text.isDigit_superscriptTwo : Text.isDigit '²' = true := by
  have digits : Text.digitRuns = _ := Text.hexWords_ofList _
  rw [Text.isDigit, digits]
  decide +kernel

set_option maxRecDepth 100000 in
theorem Text.decimalDigit?_superscriptTwo : Text.decimalDigit? '²' = none := by
  have zeros : Text.decimalZeros = _ := Text.hexWords_ofList _
  rw [Text.decimalDigit?, zeros]
  decide +kernel

/-- The expression of a superscript two alone. -/
theorem Expr.unreadable_superscriptTwo : Expr.Unreadable "²" := by
  have digit := Text.isDigit_superscriptTwo
  have inNumeral : '²' ∈ Token.numeral ['²'] := by
    rw [Token.numeral, List.takeWhile_cons_of_pos digit]
    exact List.mem_append_left _ (List.mem_append_left _ List.mem_cons_self)
  -- The text is taken apart before the test of its character is compared.
  have starts : Token.startsNumeral ['²'] = true := by
    unfold Token.startsNumeral
    split
    · rename_i shape
      cases shape
    · rename_i shape
      cases shape
      exact digit
    · rename_i shape
      cases shape
  refine ⟨0, ['²'], .here, starts, Or.inl ?_⟩
  exact ⟨'²', inNumeral, digit, Text.decimalDigit?_superscriptTwo⟩

/-- A plan that computes a field by a superscript two is neither loaded nor refused, and its run has
no outcome. -/
theorem Plan.superscript_not_reported :
    let value := Value.obj
      [("planVersion", .str "1.0"), ("source", .obj [("recordPath", .str "/")]),
        ("steps", .arr [.obj
          [("op", .str "compute"),
            ("compute", .arr [.obj [("as", .str "x"), ("expr", .str "²")]])]])]
    ¬((∃ plan, Plan.load value = .ok plan) ∨
        ∃ problems, Plan.load value = .error (.refused problems)) ∧
      ¬∃ execution,
        RowPlan.execute value (.arr [.obj [("a", .num (.int 1))]]) 0 = .ok execution := by
  intro value
  have read : Plan.read value = .ok ⟨"1.0", "/", [.compute [⟨"x", "²"⟩]]⟩ := rfl
  have unreadable : Plan.HasUnreadableNumeral value :=
    ⟨_, _, "²", read, List.mem_cons_self, Expr.unreadable_superscriptTwo⟩
  rcases Plan.load_stops_iff.2 unreadable with ⟨error, stopped⟩
  constructor
  · rintro (⟨plan, loaded⟩ | ⟨problems, refused⟩)
    · cases stopped.symm.trans loaded
    · cases stopped.symm.trans refused
  · rintro ⟨execution, ran⟩
    cases (Plan.execute_of_load_eq_error stopped _ _).symm.trans ran

end RowPlan
