import RowPlan.Proofs.Plan.Acceptance
import RowPlan.Proofs.Shape

/-!
# Reading written plans

A written plan is an object with a version, a pointer and an array of written steps. It is read when
all of its steps name known operations and each step is read, and it is loaded when the plan that is
read from it is valid.
-/

namespace RowPlan

/-- A plan as it is written: a version, a pointer to the records and the written steps. -/
def Plan.written (version recordPath : String) (steps : List Value) : Value :=
  .obj [("planVersion", .str version), ("source", .obj [("recordPath", .str recordPath)]),
    ("steps", .arr steps)]

/-- There is nothing wrong with the operation of a step if it is a known name. -/
theorem Step.opProblem?_eq_none_iff
    (index : Nat) {step : Value} :
    opProblem? index step = .ok none ↔
      ∃ members name, step = .obj members ∧ opOf members = .str name ∧ name ∈ ops := by
  cases step with
  | obj members =>
      simp only [opProblem?, Value.obj.injEq, exists_and_left, exists_eq_left']
      cases named : opOf members with
      | str name =>
          by_cases listed : name ∈ ops
          · have given : (Value.str name).isGiven = true := by
              revert listed
              simp only [ops, List.mem_cons, List.not_mem_nil, or_false]
              rintro (rfl | rfl | rfl | rfl | rfl | rfl | rfl | rfl) <;> rfl
            simp [given, listed]
          · refine iff_of_false ?_ (by simpa using listed)
            split <;> simp [listed]
      | null => simp [Value.isGiven]
      | _ =>
          refine iff_of_false ?_ (by simp)
          split
          · simp
          · simp [Outcome.map_eq_ok_iff]
  | _ => simp [opProblem?]

theorem Step.opProblems_eq_nil_iff
    (index : Nat) (steps : List Value) :
    opProblems index steps = .ok [] ↔ ∀ step ∈ steps, opProblem? 0 step = .ok none := by
  induction steps generalizing index with
  | nil => simp [opProblems]
  | cons step rest later =>
      rw [opProblems, List.forall_mem_cons, ← later (index + 1),
        opProblem?_eq_none_iff 0, ← opProblem?_eq_none_iff index]
      simp only [Outcome.bind_eq_ok_iff, Except.ok.injEq, List.append_eq_nil_iff,
        Option.toList_eq_nil_iff]
      constructor
      · rintro ⟨_, known, _, restKnown, rfl, rfl⟩
        exact ⟨known, restKnown⟩
      · rintro ⟨known, restKnown⟩
        exact ⟨none, known, [], restKnown, rfl, rfl⟩

theorem Plan.readMembers_written
    (version recordPath : String) (steps : List Value) :
    Plan.readMembers
        [("planVersion", .str version), ("source", .obj [("recordPath", .str recordPath)]),
          ("steps", .arr steps)] =
      ((Shape.items Step.read 0 steps).under "steps").map (Plan.mk version recordPath) := by
  change (Shape.Checked.valid (Plan.mk version recordPath)).both
    ((Shape.items Step.read 0 steps).under "steps") = _
  cases (Shape.items Step.read 0 steps).under "steps" <;> rfl

/-- A plan is read from an object in which the operations are known and all members are read. -/
theorem Plan.read_eq_ok_iff {value : Value} {plan : Plan} :
    Plan.read value = .ok plan ↔
      ∃ members, value = .obj members ∧ Plan.stepProblems members = .ok [] ∧
        Plan.readMembers members = .valid plan := by
  cases value with
  | obj members =>
      simp only [Plan.read, Value.obj.injEq, exists_eq_left']
      rcases Plan.stepProblems members with error | _ | ⟨problem, others⟩
      · simp
      · cases Plan.readMembers members <;> simp
      · simp
  | _ => simp [Plan.read]

/-- A written plan is read when each of its steps is. -/
theorem Plan.read_written_eq_ok_iff
    (version recordPath : String) (steps : List Value) (plan : Plan) :
    Plan.read (Plan.written version recordPath steps) = .ok plan ↔
      Step.opProblems 0 steps = .ok [] ∧
        ∃ readSteps, Shape.items Step.read 0 steps = .valid readSteps ∧
          plan = ⟨version, recordPath, readSteps⟩ := by
  have problems :
      Plan.stepProblems
        [("planVersion", .str version), ("source", .obj [("recordPath", .str recordPath)]),
          ("steps", .arr steps)] = Step.opProblems 0 steps := rfl
  simp only [Plan.read_eq_ok_iff, Plan.written, Value.obj.injEq, exists_eq_left', problems,
    Plan.readMembers_written]
  cases itemsRead : Shape.items Step.read 0 steps with
  | valid readSteps => simp [Shape.Checked.under, Shape.Checked.map, eq_comm]
  | invalid issues => simp [Shape.Checked.under, Shape.Checked.map]

theorem Plan.load_eq_ok_iff
    (value : Value) (plan : Plan) :
    Plan.load value = .ok plan ↔ Plan.read value = .ok plan ∧ plan.Valid := by
  rw [Plan.load, Plan.parse]
  change (Except.mapError _ (Plan.read value) >>= Plan.validate) = .ok plan ↔ _
  rw [Outcome.bind_eq_ok_iff]
  constructor
  · rintro ⟨read, parsed, accepted⟩
    rcases (Plan.validate_eq_ok_iff read plan).1 accepted with ⟨rfl, valid⟩
    exact ⟨Outcome.mapError_eq_ok_iff.1 parsed, valid⟩
  · rintro ⟨parsed, valid⟩
    exact ⟨plan, Outcome.mapError_eq_ok_iff.2 parsed,
      (Plan.validate_eq_ok_iff plan plan).2 ⟨rfl, valid⟩⟩

/-- A numeral stops the loading of a plan that was read by stopping its check. -/
theorem Plan.load_eq_numeral_iff
    (value : Value) (error : NumeralError) :
    Plan.load value = .error (.numeral error) ↔
      ∃ plan, Plan.read value = .ok plan ∧ plan.check = .error error := by
  rw [Plan.load, Plan.parse]
  cases Plan.read value with
  | error error => cases error <;> simp [Except.mapError, Except.bind, LoadError.ofReadError]
  | ok plan =>
      change plan.validate = .error (.numeral error) ↔ _
      rw [Plan.validate]
      split
      · rename_i stopped
        simp [stopped]
      · rename_i checked
        simp [checked]
      · rename_i checked
        simp [checked]

end RowPlan
