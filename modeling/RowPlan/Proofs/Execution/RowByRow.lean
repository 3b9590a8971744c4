import RowPlan.Proofs.Execution.Fallback
import RowPlan.Proofs.Value.Row

/-!
# Steps that work row by row

Selecting, computing and mapping look at the first row to learn which fields there are, and then change
each row by itself. What such a step does is told by a change: a function on rows and some notes, both
found from the first row alone.

Two laws of plans rest on this. A bound on the number of rows that leaves the first one may be taken from
behind such a step to the front of it. The converse fails for a mapping alone, and only where a row that the
bound leaves out has a value without a text, which stops the step if it comes first. And a step that computes
several fields is the same as one step for each of them, since all that it needs to know of the fields
computed before are their names.
-/

namespace RowPlan

open StepResult

/-! ## Joined runs -/

/-- A run of one step is what the step does. -/
theorem runFrom_singleton (state : State) (step : Step) :
    runFrom state [step] = step.run state := by
  rw [runFrom]
  cases step.run state with
  | error error => rfl
  | ok next => exact congrArg (fun notes => Except.ok (next.1, notes)) (List.append_nil _)

theorem runFrom_pair (state : State) (first second : Step) :
    runFrom state [first, second] =
      first.run state >>= fun middle =>
        (second.run middle.1).map fun final => (final.1, middle.2 ++ final.2) := by
  rw [← List.singleton_append, runFrom_append_eq_bind, runFrom_singleton]
  simp only [runFrom_singleton]

/-- Steps that run alike from every state may stand for each other in the middle of a run. -/
theorem runFrom_congr_between
    {first second : List Step} (alike : ∀ state, runFrom state first = runFrom state second)
    (before after : List Step) (state : State) :
    runFrom state (before ++ first ++ after) = runFrom state (before ++ second ++ after) := by
  have beginning : runFrom state (before ++ first) = runFrom state (before ++ second) := by
    simp only [runFrom_append_eq_bind, alike]
  simp only [runFrom_append_eq_bind _ _ after, beginning]

/-- Steps that may stand for others where these complete may do so in the middle of a run. -/
theorem runFrom_of_between
    {first second : List Step}
    (gives : ∀ state reached, runFrom state first = .ok reached → runFrom state second = .ok reached)
    {before after : List Step} {state : State} {reached : State × List Field.Note}
    (ran : runFrom state (before ++ first ++ after) = .ok reached) :
    runFrom state (before ++ second ++ after) = .ok reached := by
  rcases runFrom_append_eq_ok_iff.1 ran with ⟨late, _, notes, lateRan, afterRan, same⟩
  rcases runFrom_append_eq_ok_iff.1 lateRan with ⟨middle, notesBefore, notesBetween, beforeRan,
    firstRan, rfl⟩
  have secondRan := gives middle _ firstRan
  refine runFrom_append_eq_ok_iff.2 ⟨late, notesBefore ++ notesBetween, notes, ?_, afterRan, same⟩
  exact runFrom_append_eq_ok_iff.2 ⟨middle, notesBefore, notesBetween, beforeRan, secondRan, rfl⟩

/-! ## Changes of rows -/

/-- What becomes of each row, and what there is to say about the fields. -/
structure RowChange where
  apply : Row → Except TextError Row
  notes : List Field.Note

/-- A change made to all rows of a state. -/
def RowChange.onState (change : RowChange) (state : State) : StepResult :=
  ((state.rows.mapM change.apply).mapError StepError.text).map fun rows =>
    ({ state with rows }, change.notes)

/-- A change that can be made to every row. -/
def RowChange.always (apply : Row → Row) (notes : List Field.Note) : RowChange :=
  ⟨fun row => .ok (apply row), notes⟩

theorem RowChange.onState_always (apply : Row → Row) (notes : List Field.Note) (state : State) :
    (always apply notes).onState state =
      .ok ({ state with rows := state.rows.map apply }, notes) := by
  have every : state.rows.mapM (fun row => (.ok (apply row) : Except TextError Row)) =
      .ok (state.rows.map apply) := List.mapM_pure
  rw [onState, always, every]
  rfl

/-- A step works row by row if the first row decides whether it succeeds and what it then makes of
every row, and if it does nothing without rows. -/
structure Step.WorksRowByRow (step : Step) : Prop where
  decided : ∀ sample, ∃ outcome : Except StepError RowChange, ∀ rest groups,
    step.run ⟨sample :: rest, groups⟩ =
      outcome >>= fun change => change.onState ⟨sample :: rest, groups⟩
  idle : ∀ groups, step.run ⟨[], groups⟩ = .ok (⟨[], groups⟩, [])

/-- Steps of the three operations that change fields. -/
def Step.ChangesFields : Step → Prop
  | .select _ => True
  | .compute _ => True
  | .mapValue _ => True
  | _ => False

namespace StepResult

/-- The row that copied fields make, each resolved against a sample. -/
def projectRow (fields : List FieldSpec) (sample row : Row) : Row :=
  Row.ofPairs (fields.map fun spec =>
    (spec.target, Field.readOrNull row (Field.resolve spec.source sample)))

theorem select_eq
    (fields : List FieldSpec) (sample : Row) (rest : List Row) (groups : Option (List Group)) :
    select fields ⟨sample :: rest, groups⟩ =
      .ok (⟨(sample :: rest).map (projectRow fields sample), groups⟩,
        notesOn (fields.map (·.source)) sample) := by
  simp only [select, notesOn, List.filterMap_map, List.map_map]
  rfl

theorem compute_eq
    (specs : List ComputeSpec) (sample : Row) (rest : List Row) (groups : Option (List Group)) :
    compute specs ⟨sample :: rest, groups⟩ =
      (compileSpecs specs).map fun compiled =>
        (⟨(sample :: rest).map (computeRow compiled), groups⟩, computeNotes sample compiled) := by
  change (compileSpecs specs >>= fun compiled => _) = _
  cases compileSpecs specs <;> rfl

end StepResult

theorem Step.ChangesFields.worksRowByRow {step : Step} (changes : step.ChangesFields) :
    step.WorksRowByRow := by
  cases step with
  | select fields =>
      constructor
      case decided =>
        intro sample
        refine ⟨.ok (.always (projectRow fields sample) (notesOn (fields.map (·.source)) sample)), ?_⟩
        intro rest groups
        rw [run, select_eq]
        exact (RowChange.onState_always _ _ ⟨sample :: rest, groups⟩).symm
      case idle => exact fun _ => rfl
  | compute specs =>
      constructor
      case decided =>
        intro sample
        refine ⟨(compileSpecs specs).map fun compiled =>
          .always (computeRow compiled) (computeNotes sample compiled), ?_⟩
        intro rest groups
        rw [run, compute_eq]
        cases compileSpecs specs with
        | error error => rfl
        | ok compiled => exact (RowChange.onState_always _ _ ⟨sample :: rest, groups⟩).symm
      case idle => exact fun _ => rfl
  | mapValue specs =>
      constructor
      case decided =>
        intro sample
        refine ⟨.ok ⟨mapRow (resolveSpecs specs sample), mapNotes specs [sample]⟩, ?_⟩
        exact fun rest groups => mapValue_eq specs ⟨sample :: rest, groups⟩
      case idle => exact fun _ => rfl
  | _ => exact changes.elim

/-- The rules for a step that changes fields do not look at its neighbours. -/
theorem Step.ChangesFields.valid_anywhere
    {step : Step} (changes : step.ChangesFields) {previous next before after : Option Step}
    (valid : step.Valid previous next) : step.Valid before after := by
  cases step with
  | select fields => exact valid
  | compute specs => exact valid
  | mapValue specs => exact valid
  | _ => exact changes.elim

/-! ## Bounds -/

theorem RowChange.onState_firstRows
    {change : RowChange} {state reached : State} {notes : List Field.Note}
    (made : change.onState state = .ok (reached, notes)) (count : Nat) :
    change.onState { state with rows := state.rows.take count } =
      .ok ({ reached with rows := reached.rows.take count }, notes) := by
  rcases Outcome.map_eq_ok_iff.1 made with ⟨images, imagesMade, same⟩
  cases same
  have first := Outcome.mapM_take (Outcome.mapError_eq_ok_iff.1 imagesMade) count
  exact Outcome.map_eq_ok_iff.2 ⟨_, Outcome.mapError_eq_ok_iff.2 first, rfl⟩

/-- A positive bound leaves the first row, so it may be taken to the front of a step that works row by
row. -/
theorem Step.WorksRowByRow.run_limit
    {step : Step} (works : step.WorksRowByRow) {n : Int} (positive : 0 < n) {state : State}
    {reached : State × List Field.Note}
    (ran : runFrom state [step, .limit (some n)] = .ok reached) :
    runFrom state [.limit (some n), step] = .ok reached := by
  rcases state with ⟨rows, groups⟩
  obtain ⟨kept, rfl⟩ : ∃ kept : Nat, n = ((kept + 1 : Nat) : Int) := ⟨n.toNat - 1, by omega⟩
  have bounded (state : State) :
      (Step.limit (some (kept + 1 : Nat))).run state =
        .ok ({ state with rows := state.rows.take (kept + 1) }, []) := rfl
  rw [runFrom_pair] at ran ⊢
  rcases Outcome.bind_eq_ok_iff.1 ran with ⟨⟨middle, notes⟩, stepRan, limited⟩
  rw [bounded] at limited
  cases limited
  rw [bounded]
  change Except.map _ (step.run ⟨rows.take (kept + 1), groups⟩) = _
  cases rows with
  | nil =>
      rw [works.idle] at stepRan
      cases stepRan
      rw [List.take_nil, works.idle]
      rfl
  | cons sample rest =>
      rcases works.decided sample with ⟨outcome, decided⟩
      rw [decided] at stepRan
      rcases Outcome.bind_eq_ok_iff.1 stepRan with ⟨change, rfl, made⟩
      rw [List.take_succ_cons, decided]
      refine Outcome.map_eq_ok_iff.2 ⟨_, change.onState_firstRows made (kept + 1), ?_⟩
      simp

/-- A positive bound may be taken to the front of any number of steps that work row by row. -/
theorem runFrom_limit
    {steps : List Step} (works : ∀ step ∈ steps, step.WorksRowByRow) {n : Int} (positive : 0 < n)
    {state : State} {reached : State × List Field.Note}
    (ran : runFrom state (steps ++ [.limit (some n)]) = .ok reached) :
    runFrom state (.limit (some n) :: steps) = .ok reached := by
  induction steps generalizing state reached with
  | nil => exact ran
  | cons step rest later =>
      rw [List.forall_mem_cons] at works
      rcases runFrom_cons_eq_ok_iff.1 ran with ⟨next, notes, more, stepRan, restRan, same⟩
      have limited : runFrom state ([] ++ [step, .limit (some n)] ++ rest) = .ok reached :=
        runFrom_cons_eq_ok_iff.2 ⟨next, notes, more, stepRan, later works.2 restRan, same⟩
      have swap (state : State) (reached : State × List Field.Note) :
          runFrom state [step, .limit (some n)] = .ok reached →
            runFrom state [.limit (some n), step] = .ok reached :=
        works.1.run_limit positive
      exact runFrom_of_between swap limited

/-- A bound makes no text. -/
theorem stopsFrom_limit_step_iff {n : Int} {step : Step} {state : State} :
    StopsFrom state [.limit (some n), step] ↔
      step.Stops { state with rows := firstRows n state.rows } := by
  rw [stopsFrom_cons_iff]
  simp [stopsFrom_cons_iff, not_stopsFrom_nil, Step.Stops, Step.run, limit]

theorem stopsFrom_step_limit_iff {n : Int} {step : Step} {state : State} :
    StopsFrom state [step, .limit (some n)] ↔ step.Stops state := by
  simp [stopsFrom_cons_iff, not_stopsFrom_nil, Step.Stops]

/--
A positive bound commutes with valid steps that select, compute or map, unless the step comes to a text that
is lacking, and that only in rows that the bound leaves out: otherwise the rows and the warnings are the same
whichever comes first, or the want of the text stops both. Any number of such steps may be passed by the
bound, anywhere in a plan, if the plan completes.
-/
theorem Step.limit_commutes
    {n : Int} (positive : 0 < n) {step : Step} (changes : step.ChangesFields) {place : String}
    {previous next : Option Step} (valid : Check.step place previous next step = .ok []) :
    (∀ version recordPath rows,
      let boundFirst := Plan.runSteps ⟨version, recordPath, [.limit (some n), step]⟩ rows
      let boundLast := Plan.runSteps ⟨version, recordPath, [step, .limit (some n)]⟩ rows
      Outcome.FailsFor boundFirst (.text .tooManyDigits) (step.Stops ⟨firstRows n rows, none⟩) ∧
        Outcome.FailsFor boundLast (.text .tooManyDigits) (step.Stops ⟨rows, none⟩) ∧
        (boundFirst = boundLast ↔
          (step.Stops ⟨rows, none⟩ → step.Stops ⟨firstRows n rows, none⟩))) ∧
      ∀ steps : List Step, (∀ step ∈ steps, step.ChangesFields) → ∀ before after state reached,
        runFrom state (before ++ (steps ++ [.limit (some n)]) ++ after) = .ok reached →
          runFrom state (before ++ .limit (some n) :: steps ++ after) = .ok reached := by
  have works : step.WorksRowByRow := changes.worksRowByRow
  constructor
  · intro version recordPath rows boundFirst boundLast
    have stepValid (before after : Option Step) : step.Valid before after :=
      changes.valid_anywhere ((Check.step_eq_nil_iff place previous next step).1 valid)
    have boundValid (before after : Option Step) : (Step.limit (some n)).Valid before after :=
      ⟨n, rfl, positive⟩
    have firstValid : StepsValid none [.limit (some n), step] :=
      ⟨boundValid _ _, stepValid _ _, trivial⟩
    have lastValid : StepsValid none [step, .limit (some n)] :=
      ⟨stepValid _ _, boundValid _ _, trivial⟩
    have firstFails :
        Outcome.FailsFor boundFirst (.text .tooManyDigits) (step.Stops ⟨firstRows n rows, none⟩) :=
      ((runFrom_fails firstValid ⟨rows, none⟩).map _).congr stopsFrom_limit_step_iff
    have lastFails : Outcome.FailsFor boundLast (.text .tooManyDigits) (step.Stops ⟨rows, none⟩) :=
      ((runFrom_fails lastValid ⟨rows, none⟩).map _).congr stopsFrom_step_limit_iff
    refine ⟨firstFails, lastFails, ?_⟩
    by_cases stops : step.Stops ⟨rows, none⟩
    · rw [lastFails.eq_error stops, firstFails (.text .tooManyDigits)]
      simp [stops]
    · rcases lastFails.succeeds_iff.2 stops with ⟨table, last⟩
      rcases Outcome.bind_eq_ok_iff.1 last with ⟨reached, ran, made⟩
      have first : boundFirst = .ok table :=
        Outcome.bind_eq_ok_iff.2 ⟨reached, works.run_limit positive ran, made⟩
      simp [stops, first, last]
  · intro steps allChange before after state reached
    refine runFrom_of_between fun state reached => ?_
    exact runFrom_limit (fun step member => (allChange step member).worksRowByRow) positive

/-- Two of three rows, computed before they are left out or after. -/
theorem Step.limit_commutes_two_of_three :
    let step := Step.compute [⟨"b", "A + 1"⟩]
    let rows : List Row := [[("a", .ofInt 1)], [("a", .ofInt 2)], [("a", .ofInt 3)]]
    Check.step "steps[1]" (some (.limit (some 2))) none step = .ok [] ∧
    ∃ table,
      Plan.runSteps ⟨"1.0", "/", [.limit (some 2), step]⟩ rows = .ok table ∧
        Plan.runSteps ⟨"1.0", "/", [step, .limit (some 2)]⟩ rows = .ok table ∧
        table.rows =
          [[("a", .ofInt 1), ("b", .ofInt 2)], [("a", .ofInt 2), ("b", .ofInt 3)]] := by
  intro step rows
  have valid : Check.step "steps[1]" (some (.limit (some 2))) none step = .ok [] := by rfl
  have changes : step.ChangesFields := trivial
  rcases (Step.limit_commutes (by decide : (0 : Int) < 2) changes valid).1 "1.0" "/" rows with
    ⟨_, lastFails, same⟩
  rcases lastFails.succeeds_iff.2 id with ⟨table, last⟩
  refine ⟨valid, table, (same.2 fun stops => stops.elim).trans last, last, ?_⟩
  cases last
  rfl

/-- Of two rows with an integer each, one has too many digits to be looked up. A mapping of the first row
alone completes, and a mapping of both is stopped, although the bound leaves out the second row. -/
theorem Step.limit_not_commutes_beyond_limit :
    let step := Step.mapValue [⟨"b", "c", [], some (.str "x")⟩]
    let rows : List Row := [[("b", .ofInt 1)], [("b", .num (.int (10 ^ 6000 : Nat)))]]
    Check.step "steps[1]" (some (.limit (some 1))) none step = .ok [] ∧
      Plan.runSteps ⟨"1.0", "/", [.limit (some 1), step]⟩ rows =
        .ok ⟨[[("b", .ofInt 1), ("c", .str "x")]], []⟩ ∧
      Plan.runSteps ⟨"1.0", "/", [step, .limit (some 1)]⟩ rows = .error (.text .tooManyDigits) := by
  intro step rows
  have found : Field.readOrNull [("b", .num (.int (10 ^ 6000 : Nat)))]
      (Field.resolve "b" [("b", .ofInt 1)]) = .num (.int (10 ^ 6000 : Nat)) := by rfl
  have stops : step.Stops ⟨rows, none⟩ := by
    refine ⟨[("b", .num (.int (10 ^ 6000 : Nat)))], List.mem_cons_of_mem _ (List.mem_singleton.2 rfl),
      _, List.mem_singleton.2 rfl, ?_⟩
    change ¬ (Field.readOrNull _ (Field.resolve "b" [("b", .ofInt 1)])).Writable
    rw [found, Value.writable_num_iff]
    exact Decimal.not_writable_pow (by decide)
  have valid : StepsValid none [step, .limit (some 1)] := by
    refine ⟨(Check.step_eq_nil_iff "" _ _ _).1 ?_, ⟨1, rfl, by decide⟩, trivial⟩
    rfl
  refine ⟨by rfl, ?_, ?_⟩
  · subst step rows
    rfl
  · exact ((runFrom_fails valid ⟨rows, none⟩).map _).eq_error (.here stops)

/-! ## Computed fields -/

theorem Field.resolve_congr
    {sample other : Row} (sameKeys : sample.keys = other.keys) (reference : String) :
    resolve reference sample = resolve reference other := by
  rw [resolve, resolve, sameKeys]

namespace StepResult

/-- The notes of a computation depend on the names of the fields of the sample alone. -/
theorem computeNotes_congr
    {sample other : Row} (sameKeys : sample.keys = other.keys) (compiled : List (String × Expr)) :
    computeNotes sample compiled = computeNotes other compiled := by
  induction compiled generalizing sample other with
  | nil => rfl
  | cons spec rest later =>
      rw [computeNotes, computeNotes, later (Row.keys_set_congr sameKeys spec.1 .null .null)]
      simp only [notesOn, Row.has_congr sameKeys, Field.resolve_congr sameKeys]

/-- The sample with a placeholder says as much as the first row with the computed field. -/
theorem computeNotes_cons (sample : Row) (spec : String × Expr) (rest : List (String × Expr)) :
    computeNotes sample (spec :: rest) =
      computeNotes sample [spec] ++ computeNotes (computeRow [spec] sample) rest := by
  have sameKeys : (sample.set spec.1 .null).keys = (computeRow [spec] sample).keys :=
    Row.keys_set_congr rfl spec.1 .null (spec.2.evalOrNull sample)
  rw [computeNotes, computeNotes_congr sameKeys rest]
  simp only [computeNotes, List.append_nil]

theorem compileSpecs_cons (spec : ComputeSpec) (rest : List ComputeSpec) :
    compileSpecs (spec :: rest) =
      parseExpr spec.expr >>= fun expr =>
        (compileSpecs rest).map fun compiled => (spec.target, expr) :: compiled := by
  rw [compileSpecs, List.mapM_cons]
  cases parseExpr spec.expr with
  | error error => rfl
  | ok expr =>
      change (compileSpecs rest >>= _) = Except.map _ (compileSpecs rest)
      cases compileSpecs rest <;> rfl

/-- Computing several fields is computing the first one and then the others. -/
theorem compute_cons (spec : ComputeSpec) (rest : List ComputeSpec) (state : State) :
    (Step.compute (spec :: rest)).run state = runFrom state [.compute [spec], .compute rest] := by
  rw [runFrom_pair]
  rcases state with ⟨_ | ⟨sample, others⟩, groups⟩
  · rfl
  · rw [Step.run, Step.run, compute_eq, compute_eq, compileSpecs_cons, compileSpecs_cons]
    cases parseExpr spec.expr with
    | error error => rfl
    | ok expr =>
        change Except.map _ (Except.map _ (compileSpecs rest)) =
          Except.map _ (compute rest ⟨_ :: _, groups⟩)
        rw [compute_eq]
        cases compileSpecs rest with
        | error error => rfl
        | ok compiled =>
            have rows :
                (sample :: others).map (computeRow ((spec.target, expr) :: compiled)) =
                  ((sample :: others).map (computeRow [(spec.target, expr)])).map
                    (computeRow compiled) := by
              rw [List.map_map]
              rfl
            have notes := computeNotes_cons sample (spec.target, expr) compiled
            exact congrArg₂ (fun rows notes => Except.ok (State.mk rows groups, notes)) rows notes

end StepResult

/-- Computing fields in steps of their own is computing them in one step. -/
theorem runFrom_computeEach (specs : List ComputeSpec) (state : State) :
    runFrom state (specs.map fun spec => .compute [spec]) = (Step.compute specs).run state := by
  induction specs generalizing state with
  | nil =>
      rcases state with ⟨_ | ⟨sample, others⟩, groups⟩
      · rfl
      · have unchanged : (sample :: others).map (computeRow []) = sample :: others := List.map_id _
        exact congrArg (fun rows => Except.ok (State.mk rows groups, [])) unchanged.symm
  | cons spec rest later =>
      rw [compute_cons, List.map_cons, runFrom, runFrom]
      simp only [later, runFrom_singleton]

/-- Two rows have the same fields in the same places, those of some names apart. -/
def Row.SameApartFrom (names : List String) (before after : Row) : Prop :=
  ∀ (i : Nat) (key : String) (value : Value), key ∉ names →
    (before[i]? = some (key, value) ↔ after[i]? = some (key, value))

theorem Row.sameApartFrom_set
    {names : List String} {key : String} (listed : key ∈ names) (row : Row) (value : Value) :
    Row.SameApartFrom names row (row.set key value) := by
  induction row with
  | nil =>
      intro i other found absent
      cases i with
      | zero =>
          have different : key ≠ other := fun same => absent (same ▸ listed)
          simp [Row.set, different]
      | succ i => simp [Row.set]
  | cons field rest later =>
      rcases field with ⟨name, old⟩
      intro i other found absent
      have different : key ≠ other := fun same => absent (same ▸ listed)
      rw [Row.set]
      by_cases same : name = key
      · cases i <;> simp [same, different]
      · rw [if_neg same]
        cases i with
        | zero => rfl
        | succ i => exact later i other found absent

theorem StepResult.map_fst_compileSpecs
    {specs : List ComputeSpec} {compiled : List (String × Expr)}
    (parsed : compileSpecs specs = .ok compiled) :
    compiled.map (·.1) = specs.map (·.target) := by
  have each := Outcome.mapM_eq_ok_iff.1 parsed
  clear parsed
  induction each with
  | nil => rfl
  | cons here _ later =>
      rcases Outcome.map_eq_ok_iff.1 here with ⟨expr, _, rfl⟩
      exact congrArg (_ :: ·) later

theorem StepResult.computeRow_sameApartFrom
    {names : List String} {compiled : List (String × Expr)}
    (listed : ∀ spec ∈ compiled, spec.1 ∈ names) (row : Row) :
    Row.SameApartFrom names row (computeRow compiled row) := by
  induction compiled generalizing row with
  | nil => exact fun _ _ _ _ => Iff.rfl
  | cons spec rest later =>
      rw [List.forall_mem_cons] at listed
      intro i key value absent
      have first := Row.sameApartFrom_set listed.1 row (spec.2.evalOrNull row)
      exact (first i key value absent).trans (later listed.2 _ i key value absent)

/--
Splitting a step that computes fields into one step for each field changes nothing, neither the rows nor
the warnings, and it may be done anywhere in a plan. Fields that are not computed stay in their places
and keep their values.
-/
theorem Step.compute_splits
    {specs : List ComputeSpec} (parse : ∀ spec ∈ specs, ∃ expr, Expr.parse spec.expr = .ok expr)
    {rows : List Row} (inhabited : rows ≠ []) (version recordPath : String) :
    (∃ table,
      Plan.runSteps ⟨version, recordPath, [.compute specs]⟩ rows = .ok table ∧
        Plan.runSteps ⟨version, recordPath, specs.map fun spec => .compute [spec]⟩ rows =
          .ok table ∧
        List.Forall₂ (Row.SameApartFrom (specs.map (·.target))) rows table.rows) ∧
      ∀ before after state,
        runFrom state (before ++ [.compute specs] ++ after) =
          runFrom state (before ++ (specs.map fun spec => .compute [spec]) ++ after) := by
  have alike (state : State) :
      runFrom state [.compute specs] = runFrom state (specs.map fun spec => .compute [spec]) := by
    rw [runFrom_singleton, runFrom_computeEach]
  constructor
  · have parseTexts : ∀ spec ∈ specs, ∃ expr, parseExpr spec.expr = .ok expr := by
      intro spec member
      rcases parse spec member with ⟨expr, parsed⟩
      exact ⟨expr, Outcome.mapError_eq_ok_iff.2 parsed⟩
    rcases compileSpecs_succeeds parseTexts with ⟨compiled, parsed⟩
    obtain ⟨sample, rest, rfl⟩ := List.exists_cons_of_ne_nil inhabited
    have ran : runFrom ⟨sample :: rest, none⟩ [.compute specs] =
        .ok (⟨(sample :: rest).map (computeRow compiled), none⟩, computeNotes sample compiled) := by
      rw [runFrom_singleton, run, compute_eq, parsed]
      rfl
    refine ⟨_, Outcome.bind_eq_ok_iff.2 ⟨_, ran, rfl⟩,
      Outcome.bind_eq_ok_iff.2 ⟨_, (alike _).symm.trans ran, rfl⟩, ?_⟩
    rw [List.forall₂_map_right_iff, List.forall₂_same]
    intro row _
    apply computeRow_sameApartFrom
    intro spec member
    rw [← map_fst_compileSpecs parsed]
    exact List.mem_map_of_mem member
  · exact fun before after state => runFrom_congr_between alike before after state

/-- The second field is computed from the first one, which has taken the place of an old field and is
named in another case. -/
theorem Step.compute_splits_overwritten :
    let specs : List ComputeSpec := [⟨"a", "a + 1"⟩, ⟨"b", "A * 2"⟩]
    let rows : List Row := [[("a", .ofInt 1), ("c", .ofInt 5)]]
    (∀ spec ∈ specs, ∃ expr, Expr.parse spec.expr = .ok expr) ∧ rows ≠ [] ∧
    ∃ table,
      Plan.runSteps ⟨"1.0", "/", [.compute specs]⟩ rows = .ok table ∧
        Plan.runSteps ⟨"1.0", "/", [.compute [⟨"a", "a + 1"⟩], .compute [⟨"b", "A * 2"⟩]]⟩ rows =
          .ok table ∧
        table.rows = [[("a", .ofInt 2), ("c", .ofInt 5), ("b", .ofInt 4)]] ∧
        table.warnings = ["Field 'A' resolved to 'a' via case-insensitive match"] := by
  intro specs rows
  have parse : ∀ spec ∈ specs, ∃ expr, Expr.parse spec.expr = .ok expr := by
    simp only [specs, List.forall_mem_cons]
    exact ⟨⟨_, rfl⟩, ⟨_, rfl⟩, nofun⟩
  have inhabited : rows ≠ [] := List.cons_ne_nil _ _
  rcases (Step.compute_splits parse inhabited "1.0" "/").1 with ⟨table, whole, split, _⟩
  refine ⟨parse, inhabited, table, whole, split, ?_⟩
  cases whole
  exact ⟨rfl, rfl⟩

end RowPlan
