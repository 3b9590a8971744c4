import RowPlan.Proofs.Execution.Progress
import RowPlan.Proofs.Plan.Serialization
import RowPlan.Proofs.Value.Row

/-!
# Plans that are written and read back

A plan that is written and read back runs like the plan itself, but for the fallbacks of null that the
written form leaves out: a mapped field with such a fallback becomes null where its table has no entry,
and without it the field keeps the value that it was mapped from.

The difference shows at a row when a field with a fallback of null reads a value other than null that
its table lacks. A run in which no step that completes does so is not changed by writing and reading; where
one does, the plan that ends with that step already gives another table. Whether a step is stopped for want
of a text does not depend on its fallbacks.
-/

namespace RowPlan

/-! ## Conditions that are read back -/

namespace Condition

mutual

theorem references_reread : (tree : Condition) → tree.reread.references = tree.references
  | node op left right none => rfl
  | node op left right (some items) => by
      simp only [reread, optionalReread, references, optionalReferences,
        partReferences_reread items]

theorem partReferences_reread :
    (items : List Condition) → partReferences (partsReread items) = partReferences items
  | [] => rfl
  | part :: rest => by
      rw [partsReread, partReferences, partReferences, references_reread part,
        partReferences_reread rest]

end

theorem evalParts_reread
    {row : Row} {items : List Condition}
    (each : ∀ item ∈ items, item.reread.eval row = item.eval row) :
    evalParts row (partsReread items) = evalParts row items := by
  induction items with
  | nil => rfl
  | cons part rest later =>
      rcases List.forall_mem_cons.1 each with ⟨partSame, restSame⟩
      rw [partsReread, evalParts, evalParts, partSame, later restSame]

theorem Valid.eval_reread
    {tree : Condition} (valid : tree.Valid) (row : Row) :
    tree.reread.eval row = tree.eval row := by
  induction valid with
  | @negation left right item _ itemSame =>
      have itemsSame : evalParts row (partsReread [item]) = evalParts row [item] :=
        evalParts_reread (by simpa using itemSame)
      rw [Condition.reread, lower_knownName "not" (by decide), eval, eval, optionalReread,
        evalOptional, evalOptional, itemsSame]
  | joined joins _ _ itemsSame =>
      rw [Condition.reread, lower_joining joins, eval, eval, optionalReread, evalOptional,
        evalOptional, evalParts_reread itemsSame]
  | test known =>
      have notLogical := Test.not_mem_logicalOps known
      simp only [logicalOps, List.mem_cons, List.not_mem_nil, or_false, not_or] at notLogical
      rw [Condition.reread, lower_test known, eval, eval]
      simp only [notLogical, if_false]

end Condition

/-! ## Steps that are read back -/

/-- The step without fallbacks of null. -/
def Step.forgetNulls : Step → Step
  | .mapValue specs => .mapValue (specs.map MapSpec.forgetNull)
  | step => step

/-- The plan without fallbacks of null. -/
def Plan.forgetNulls (plan : Plan) : Plan := { plan with steps := plan.steps.map Step.forgetNulls }

theorem Filter.Valid.compile_reread
    {filter : Filter} (valid : filter.Valid) :
    StepResult.compileFilter filter.reread = StepResult.compileFilter filter := by
  cases filter with
  | expr text => rfl
  | tree condition =>
      have sameTruth : (fun row => condition.reread.eval row) = fun row => condition.eval row :=
        funext (Condition.Valid.eval_reread valid)
      simp only [Filter.reread, StepResult.compileFilter, condition.references_reread, sameTruth]

/-- A valid step that is read back does what it does without fallbacks of null. -/
theorem Step.Valid.run_reread
    {previous next : Option Step} {step : Step} (valid : step.Valid previous next) :
    step.reread.run = step.forgetNulls.run := by
  funext state
  cases step with
  | filter condition =>
      rcases valid with ⟨kept, rfl, keptValid⟩
      simp only [Step.reread, Step.forgetNulls, Step.run, Option.map_some, StepResult.filter,
        keptValid.compile_reread]
  | sort by_ direction =>
      rw [Step.reread, lower_direction valid.2]
      rfl
  | aggregate metrics =>
      rw [Step.reread, MetricSpec.map_reread_of_valid valid.2.1]
      rfl
  | _ => rfl

theorem StepsValid.runFrom_reread
    {previous : Option Step} {steps : List Step} (valid : StepsValid previous steps)
    (state : State) :
    runFrom state (steps.map Step.reread) = runFrom state (steps.map Step.forgetNulls) := by
  induction steps generalizing previous state with
  | nil => rfl
  | cons step rest later =>
      rw [List.map_cons, List.map_cons, runFrom, runFrom, valid.1.run_reread]
      congr 1
      funext result
      simp only [later valid.2 result.1]

/-! ## Mapped fields -/

/-- A mapped field falls back to null from a value: null is its fallback, and the value is another one
whose text the table lacks. -/
def MapSpec.FallsBackToNull (spec : MapSpec) (value : Value) : Prop :=
  spec.fallback = some .null ∧ (∃ text, value.display = .ok text ∧ spec.mapping.find? text = none) ∧
    value ≠ .null

/-- A fallback of null may be left out exactly where it is not used. -/
theorem StepResult.mapped_forgetNull_eq_iff (spec : MapSpec) (value : Value) :
    mapped spec.forgetNull value = mapped spec value ↔ ¬ spec.FallsBackToNull value := by
  unfold mapped MapSpec.forgetNull MapSpec.FallsBackToNull
  cases value.display with
  | error error => simp [bind, Except.bind]
  | ok text =>
      dsimp only [bind, Except.bind]
      cases found : spec.mapping.find? text with
      | some image => simp [found]
      | none =>
          cases written : spec.fallback with
          | none => simp [nonNull]
          | some fallback =>
              cases fallback with
              | null => simp [nonNull, found]
              | _ => simp [nonNull]

/-- The value that a mapped field reads from a row, its source resolved against a sample. -/
def MapSpec.sourceValue (spec : MapSpec) (sample row : Row) : Value :=
  Field.readOrNull row (Field.resolve spec.source sample)

/-- The fields of a mapping step with the fields of the rows that they read. -/
def StepResult.resolveSpecs (specs : List MapSpec) (sample : Row) :
    List (MapSpec × Field.Resolution) :=
  specs.map fun spec => (spec, Field.resolve spec.source sample)

/-- The notes of a mapping step. -/
def StepResult.mapNotes (specs : List MapSpec) (rows : List Row) : List Field.Note :=
  if rows.isEmpty then []
  else (resolveSpecs specs (Records.sample rows)).filterMap (·.2.note)

/-- What a mapping step does, also to no rows at all. -/
theorem StepResult.mapValue_eq (specs : List MapSpec) (state : State) :
    mapValue specs state =
      ((state.rows.mapM (mapRow (resolveSpecs specs (Records.sample state.rows)))).mapError
        StepError.text).map fun rows => ({ state with rows }, mapNotes specs state.rows) := by
  rcases state with ⟨rows, groups⟩
  cases rows <;> rfl

theorem StepResult.mapValue_eq_ok_iff
    {specs : List MapSpec} {state reached : State} {notes : List Field.Note} :
    mapValue specs state = .ok (reached, notes) ↔
      ∃ images,
        state.rows.mapM (mapRow (resolveSpecs specs (Records.sample state.rows))) = .ok images ∧
        reached = { state with rows := images } ∧ notes = mapNotes specs state.rows := by
  rw [mapValue_eq, Outcome.map_eq_ok_iff]
  constructor
  · rintro ⟨images, made, same⟩
    cases same
    exact ⟨images, Outcome.mapError_eq_ok_iff.1 made, rfl, rfl⟩
  · rintro ⟨images, made, rfl, rfl⟩
    exact ⟨images, Outcome.mapError_eq_ok_iff.2 made, rfl⟩

/-- The fields that a mapping step gives to a row. -/
def StepResult.mapFields (specs : List MapSpec) (sample row : Row) :
    Except TextError (List (String × Value)) :=
  specs.mapM fun spec =>
    (mapped spec (spec.sourceValue sample row)).map fun image => (spec.target, image)

theorem StepResult.mapRow_eq_setAll (specs : List MapSpec) (sample row : Row) :
    mapRow (resolveSpecs specs sample) row = (mapFields specs sample row).map row.setAll := by
  rw [mapRow, resolveSpecs, List.mapM_map]
  rfl

theorem StepResult.names_of_mapFields
    {specs : List MapSpec} {sample row : Row} {fields : List (String × Value)}
    (made : mapFields specs sample row = .ok fields) :
    fields.map (·.1) = specs.map (·.target) := by
  induction Outcome.mapM_eq_ok_iff.1 made with
  | nil => rfl
  | cons first rest later =>
      rcases Outcome.map_eq_ok_iff.1 first with ⟨_, _, rfl⟩
      exact congrArg _ (later (Outcome.mapM_eq_ok_iff.2 rest))

/-- A step falls back to null at some row: one of its fields does so from the value that it reads. -/
def Step.FallsBackToNull (state : State) : Step → Prop
  | .mapValue specs =>
      ∃ row ∈ state.rows, ∃ spec ∈ specs,
        spec.FallsBackToNull (spec.sourceValue (Records.sample state.rows) row)
  | _ => False

theorem StepResult.mapNotes_forgetNull (specs : List MapSpec) (rows : List Row) :
    mapNotes (specs.map MapSpec.forgetNull) rows = mapNotes specs rows := by
  unfold mapNotes resolveSpecs
  rw [List.map_map, List.filterMap_map, List.filterMap_map]
  rfl

theorem StepResult.mapRow_forgetNull
    {specs : List MapSpec} {sample row : Row}
    (unused : ∀ spec ∈ specs, ¬ spec.FallsBackToNull (spec.sourceValue sample row)) :
    mapRow (resolveSpecs (specs.map MapSpec.forgetNull) sample) row =
      mapRow (resolveSpecs specs sample) row := by
  rw [mapRow_eq_setAll, mapRow_eq_setAll, mapFields, List.mapM_map]
  refine congrArg (Except.map row.setAll) (Outcome.mapM_congr fun spec member => ?_)
  have same := (mapped_forgetNull_eq_iff spec _).2 (unused spec member)
  exact congrArg (Except.map fun image => (spec.target, image)) same

/-- A step that does not fall back to null does not need its fallbacks of null. -/
theorem Step.run_forgetNulls
    {step : Step} {state : State} (unused : ¬ step.FallsBackToNull state) :
    step.forgetNulls.run state = step.run state := by
  cases step with
  | mapValue specs =>
      have sameRows :
          state.rows.mapM (StepResult.mapRow
              (StepResult.resolveSpecs (specs.map MapSpec.forgetNull) (Records.sample state.rows))) =
            state.rows.mapM (StepResult.mapRow
              (StepResult.resolveSpecs specs (Records.sample state.rows))) := by
        refine Outcome.mapM_congr fun row rowMember => StepResult.mapRow_forgetNull ?_
        intro spec specMember used
        exact unused ⟨row, rowMember, spec, specMember, used⟩
      simp only [Step.forgetNulls, Step.run, StepResult.mapValue_eq, StepResult.mapNotes_forgetNull,
        sameRows]
  | _ => rfl

/-- Whether a step comes to a text that is lacking does not depend on its fallbacks. -/
theorem Step.stops_forgetNulls_iff (step : Step) (state : State) :
    step.forgetNulls.Stops state ↔ step.Stops state := by
  cases step with
  | mapValue specs => simp [Step.forgetNulls, Step.Stops, MapSpec.Stops, MapSpec.forgetNull]
  | _ => exact Iff.rfl

theorem StepResult.find?_mapRow
    {specs : List MapSpec} (distinct : (specs.map (·.target)).Nodup) {sample row image : Row}
    (made : mapRow (resolveSpecs specs sample) row = .ok image) {spec : MapSpec}
    (member : spec ∈ specs) :
    ∃ value, mapped spec (spec.sourceValue sample row) = .ok value ∧
      image.find? spec.target = some value := by
  rw [mapRow_eq_setAll] at made
  rcases Outcome.map_eq_ok_iff.1 made with ⟨fields, fieldsMade, rfl⟩
  rcases Outcome.exists_mem_of_mapM fieldsMade member with ⟨field, fieldMember, fieldMade⟩
  rcases Outcome.map_eq_ok_iff.1 fieldMade with ⟨value, valueMade, rfl⟩
  refine ⟨value, valueMade, Row.find?_setAll_of_mem ?_ fieldMember row⟩
  rw [names_of_mapFields fieldsMade]
  exact distinct

/-- A row at which a field falls back to null is mapped to another one without the fallbacks of null:
that field differs, since no other field of the step has its name. -/
theorem StepResult.mapRow_ne_of_fallsBack
    {specs : List MapSpec} (distinct : (specs.map (·.target)).Nodup)
    {spec : MapSpec} (member : spec ∈ specs) {sample row kept lost : Row}
    (falls : spec.FallsBackToNull (spec.sourceValue sample row))
    (keptMade : mapRow (resolveSpecs specs sample) row = .ok kept)
    (lostMade : mapRow (resolveSpecs (specs.map MapSpec.forgetNull) sample) row = .ok lost) :
    lost ≠ kept := by
  rintro rfl
  have lostDistinct : ((specs.map MapSpec.forgetNull).map (·.target)).Nodup := by
    rw [MapSpec.map_target_forgetNull]
    exact distinct
  have lostMember : spec.forgetNull ∈ specs.map MapSpec.forgetNull :=
    List.mem_map.2 ⟨spec, member, rfl⟩
  rcases find?_mapRow distinct keptMade member with ⟨keptValue, keptMapped, keptFound⟩
  rcases find?_mapRow lostDistinct lostMade lostMember with ⟨lostValue, lostMapped, lostFound⟩
  cases Option.some.inj (lostFound.symm.trans keptFound)
  exact (mapped_forgetNull_eq_iff spec _).1 (lostMapped.trans keptMapped.symm) falls

/-- Where a valid step falls back to null, its rows are other ones without the fallbacks of null. -/
theorem Step.Valid.rows_ne_of_fallsBack
    {previous next : Option Step} {step : Step} (valid : step.Valid previous next)
    {state kept lost : State} {keptNotes lostNotes : List Field.Note}
    (used : step.FallsBackToNull state)
    (keptRan : step.run state = .ok (kept, keptNotes))
    (lostRan : step.forgetNulls.run state = .ok (lost, lostNotes)) :
    lost.rows ≠ kept.rows := by
  cases step with
  | mapValue specs =>
      rcases used with ⟨row, rowMember, spec, specMember, falls⟩
      rcases StepResult.mapValue_eq_ok_iff.1 keptRan with ⟨keptRows, keptMade, rfl, _⟩
      rcases StepResult.mapValue_eq_ok_iff.1 lostRan with ⟨lostRows, lostMade, rfl, _⟩
      rintro (rfl : lostRows = keptRows)
      -- The images of the row stand at its place in both lists of rows.
      rcases List.getElem_of_mem rowMember with ⟨i, inside, rfl⟩
      have keptEach := Outcome.mapM_eq_ok_iff.1 keptMade
      have lostEach := Outcome.mapM_eq_ok_iff.1 lostMade
      have imageInside := keptEach.length_eq ▸ inside
      exact StepResult.mapRow_ne_of_fallsBack valid.2.2 specMember falls
        (keptEach.get inside imageInside) (lostEach.get inside imageInside) rfl
  | _ => cases used

/-! ## Runs -/

/-- A run falls back to null: one of the steps that it completes does so at the state that it has reached. -/
def StepsFallBackToNull (state : State) : List Step → Prop
  | [] => False
  | step :: rest =>
      ∃ next notes, step.run state = .ok (next, notes) ∧
        (step.FallsBackToNull state ∨ StepsFallBackToNull next rest)

theorem Step.Valid.forgetNulls
    {previous next : Option Step} {step : Step} (valid : step.Valid previous next) :
    step.forgetNulls.Valid previous next := by
  cases step with
  | mapValue specs => exact valid.mapValue_forgetNull
  | _ => exact valid

/-- A run that does not fall back to null does not need the fallbacks of null. -/
theorem runFrom_forgetNulls
    {previous : Option Step} {steps : List Step} (valid : StepsValid previous steps) {state : State}
    (unused : ¬ StepsFallBackToNull state steps) :
    runFrom state (steps.map Step.forgetNulls) = runFrom state steps := by
  induction steps generalizing previous state with
  | nil => rfl
  | cons step rest later =>
      rw [List.map_cons]
      cases ran : step.run state with
      | error error =>
          -- What stops the step stops it without its fallbacks as well.
          rcases (Step.run_fails valid.1 state error).1 ran with ⟨rfl, stops⟩
          have failed := (Step.run_fails valid.1.forgetNulls state).eq_error
            ((step.stops_forgetNulls_iff state).2 stops)
          rw [runFrom_cons_of_error failed, runFrom_cons_of_error ran]
      | ok result =>
          rcases result with ⟨next, notes⟩
          have stepUnused : ¬ step.FallsBackToNull state := fun used =>
            unused ⟨next, notes, ran, .inl used⟩
          have restUnused : ¬ StepsFallBackToNull next rest := fun used =>
            unused ⟨next, notes, ran, .inr used⟩
          rw [runFrom_cons_of_ok ran, runFrom_cons_of_ok ((Step.run_forgetNulls stepUnused).trans ran),
            later valid.2 restUnused]

/-- What a run falls back to at its beginning, the whole run falls back to. -/
theorem StepsFallBackToNull.append
    {state : State} {beginning : List Step} (used : StepsFallBackToNull state beginning)
    (rest : List Step) :
    StepsFallBackToNull state (beginning ++ rest) := by
  induction beginning generalizing state with
  | nil => cases used
  | cons step others later =>
      rcases used with ⟨next, notes, ran, here | used⟩
      · exact ⟨next, notes, ran, .inl here⟩
      · exact ⟨next, notes, ran, .inr (later used)⟩

/-- Where a run of valid steps falls back to null, the steps up to the first that does so are valid by
themselves, complete, and give other rows without the fallbacks of null. -/
theorem StepsFallBackToNull.first_use
    {previous : Option Step} {steps : List Step} (valid : StepsValid previous steps)
    {state : State} (used : StepsFallBackToNull state steps) :
    ∃ beginning rest,
      steps = beginning ++ rest ∧ beginning ≠ [] ∧ StepsValid previous beginning ∧
      ∃ kept keptNotes lost lostNotes,
        runFrom state beginning = .ok (kept, keptNotes) ∧
        runFrom state (beginning.map Step.forgetNulls) = .ok (lost, lostNotes) ∧
        lost.rows ≠ kept.rows := by
  induction steps generalizing previous state with
  | nil => cases used
  | cons step rest later =>
      rcases used with ⟨next, notes, ran, now⟩
      by_cases here : step.FallsBackToNull state
      · -- The step completes without its fallbacks as well, but its rows differ.
        have ends : ¬ step.forgetNulls.Stops state := by
          rw [step.stops_forgetNulls_iff]
          exact (Step.run_fails valid.1 state).succeeds_iff.1 ⟨_, ran⟩
        rcases (Step.run_fails valid.1.forgetNulls state).succeeds_iff.2 ends with
          ⟨⟨lost, lostNotes⟩, lostRan⟩
        refine ⟨[step], rest, rfl, by simp, ⟨?_, trivial⟩, next, notes ++ [], lost, lostNotes ++ [],
          runFrom_cons_of_ok ran [], runFrom_cons_of_ok lostRan [],
          valid.1.rows_ne_of_fallsBack here ran lostRan⟩
        -- Only a mapping step falls back, and it asks nothing of its neighbours.
        cases step with
        | mapValue specs => exact valid.1
        | _ => cases here
      · rcases later valid.2 (now.resolve_left here) with
          ⟨beginning, others, rfl, nonempty, beginningValid, kept, keptNotes, lost, lostNotes, keptRan,
            lostRan, differs⟩
        have stepLost := (Step.run_forgetNulls here).trans ran
        refine ⟨step :: beginning, others, rfl, by simp, ⟨?_, beginningValid⟩,
          kept, notes ++ keptNotes, lost, notes ++ lostNotes, ?_, ?_, differs⟩
        · cases beginning with
          | nil => exact absurd rfl nonempty
          | cons second more => exact valid.1
        · rw [runFrom_cons_of_ok ran, keptRan]
          rfl
        · rw [List.map_cons, runFrom_cons_of_ok stepLost, lostRan]
          rfl

/-! ## Plans -/

@[simp]
theorem Plan.forgetNulls_recordPath (plan : Plan) :
    plan.forgetNulls.recordPath = plan.recordPath := rfl

theorem Step.forgetNulls_op (step : Step) : step.forgetNulls.op = step.op := by
  cases step <;> rfl

theorem Plan.Valid.forgetNulls
    {plan : Plan} (valid : plan.Valid) :
    plan.forgetNulls.Valid where
  version := valid.version
  recordPath := valid.recordPath
  steps := valid.steps.map Step.forgetNulls_op Step.Valid.forgetNulls

/-- A valid plan that is written and read back runs as it does without fallbacks of null. -/
theorem Plan.Valid.execute_reread
    {plan : Plan} (valid : plan.Valid) (document : Value) (maxRows : Int) :
    plan.reread.execute document maxRows = plan.forgetNulls.execute document maxRows := by
  have sameRuns (rows : List Row) : plan.reread.runSteps rows = plan.forgetNulls.runSteps rows := by
    simp only [Plan.runSteps, Plan.reread, Plan.forgetNulls, valid.steps.runFrom_reread]
  rw [valid.reread.execute_eq, valid.forgetNulls.execute_eq, Plan.runOn, Plan.runOn]
  simp only [sameRuns]
  rfl

/-- A plan falls back to null on a document: the run on its records does so. -/
def Plan.FallsBackToNull (plan : Plan) (document : Value) (maxRows : Int) : Prop :=
  ∃ records bounded,
    Records.extract document plan.recordPath = .ok records ∧
    truncateRows maxRows records.rows = .ok bounded ∧
    StepsFallBackToNull ⟨bounded.1, none⟩ plan.steps

/-- A plan keeps its outcome on a document: its written form can be loaded, and the loaded plan gives
the same. -/
def Plan.KeepsOutcome (plan : Plan) (document : Value) (maxRows : Int) : Prop :=
  ∃ reread,
    Plan.load plan.toValue = .ok reread ∧
    reread.execute document maxRows = plan.execute document maxRows

theorem Plan.Valid.keepsOutcome_iff
    {plan : Plan} (valid : plan.Valid) (document : Value) (maxRows : Int) :
    plan.KeepsOutcome document maxRows ↔
      plan.forgetNulls.execute document maxRows = plan.execute document maxRows := by
  rw [← valid.execute_reread]
  constructor
  · rintro ⟨reread, loaded, same⟩
    cases valid.load_toValue.symm.trans loaded
    exact same
  · intro same
    exact ⟨plan.reread, valid.load_toValue, same⟩

theorem Plan.Valid.keepsOutcome_of_unused
    {plan : Plan} (valid : plan.Valid) {document : Value} {maxRows : Int}
    (unused : ¬ plan.FallsBackToNull document maxRows) :
    plan.KeepsOutcome document maxRows := by
  rw [valid.keepsOutcome_iff, valid.execute_eq, valid.forgetNulls.execute_eq, Plan.runOn, Plan.runOn,
    Plan.forgetNulls_recordPath]
  cases extracted : Records.extract document plan.recordPath with
  | error error => rfl
  | ok records =>
      dsimp only
      cases cut : truncateRows maxRows records.rows with
      | error error => rfl
      | ok bounded =>
          have runUnused : ¬ StepsFallBackToNull ⟨bounded.1, none⟩ plan.steps := fun used =>
            unused ⟨records, bounded, extracted, cut, used⟩
          have sameRun : plan.forgetNulls.runSteps bounded.1 = plan.runSteps bounded.1 := by
            simp only [Plan.runSteps, Plan.forgetNulls, runFrom_forgetNulls valid.steps runUnused]
          change (plan.forgetNulls.runSteps bounded.1 >>= _) = (plan.runSteps bounded.1 >>= _)
          rw [sameRun]

/-- A plan whose rows are other ones without the fallbacks of null does not keep its outcome. -/
theorem Plan.Valid.not_keepsOutcome
    {plan : Plan} (valid : plan.Valid) {document : Value} {maxRows : Int} {records : Records}
    {bounded : List Row × List String} {kept lost : State} {keptNotes lostNotes : List Field.Note}
    (extracted : Records.extract document plan.recordPath = .ok records)
    (cut : truncateRows maxRows records.rows = .ok bounded)
    (keptRan : runFrom ⟨bounded.1, none⟩ plan.steps = .ok (kept, keptNotes))
    (lostRan : runFrom ⟨bounded.1, none⟩ (plan.steps.map Step.forgetNulls) = .ok (lost, lostNotes))
    (differs : lost.rows ≠ kept.rows) :
    ¬ plan.KeepsOutcome document maxRows := by
  rw [valid.keepsOutcome_iff, valid.execute_eq, valid.forgetNulls.execute_eq, Plan.runOn, Plan.runOn,
    Plan.forgetNulls_recordPath, extracted]
  simp only [cut, Plan.runSteps, Plan.forgetNulls]
  change (runFrom _ _ >>= _ >>= _) ≠ (runFrom _ _ >>= _ >>= _)
  rw [keptRan, lostRan]
  intro same
  have sameTables := Execution.done.inj (Except.ok.inj same)
  exact differs (congrArg Table.rows sameTables)

/-- The plan that stops after some of its first steps. -/
def Plan.stoppedAfter (plan : Plan) (beginning : List Step) : Plan :=
  { plan with steps := beginning }

/--
Writing an accepted plan and reading it back gives a plan that is accepted and runs as the plan does
without its fallbacks of null. On a document, the plan and all accepted plans that it begins with keep
their outcomes, tables and failures alike, exactly when its run does not fall back to null.
-/
theorem Plan.keepsOutcome_iff_not_fallsBackToNull
    (plan : Plan) (accepted : plan.check = .ok []) :
    (∃ reread,
      Plan.load plan.toValue = .ok reread ∧
      ∀ document maxRows,
        reread.execute document maxRows = plan.forgetNulls.execute document maxRows) ∧
    ∀ document maxRows,
      (∀ beginning rest,
        plan.steps = beginning ++ rest → (plan.stoppedAfter beginning).check = .ok [] →
          (plan.stoppedAfter beginning).KeepsOutcome document maxRows) ↔
        ¬ plan.FallsBackToNull document maxRows := by
  have valid : plan.Valid := plan.check_eq_nil_iff.1 accepted
  refine ⟨⟨plan.reread, valid.load_toValue, valid.execute_reread⟩, ?_⟩
  intro document maxRows
  constructor
  · rintro keeps ⟨records, bounded, extracted, cut, used⟩
    rcases used.first_use valid.steps with
      ⟨beginning, rest, split, _, beginningValid, _, _, _, _, keptRan, lostRan, differs⟩
    have stoppedValid : (plan.stoppedAfter beginning).Valid :=
      ⟨valid.version, valid.recordPath, beginningValid⟩
    have stoppedKeeps :=
      keeps beginning rest split ((Plan.check_eq_nil_iff _).2 stoppedValid)
    exact stoppedValid.not_keepsOutcome extracted cut keptRan lostRan differs stoppedKeeps
  · intro unused beginning rest split stoppedAccepted
    have stoppedValid := (Plan.check_eq_nil_iff _).1 stoppedAccepted
    refine stoppedValid.keepsOutcome_of_unused ?_
    rintro ⟨records, bounded, extracted, cut, used⟩
    exact unused ⟨records, bounded, extracted, cut, split ▸ used.append rest⟩

/-- On a code that the table has, a fallback of null makes no difference. -/
theorem Plan.keepsOutcome_mapped_code :
    Plan.check ⟨"1.0", "/", [.mapValue [⟨"code", "label", [("A", .str "Alpha")], some .null⟩]]⟩ =
      .ok [] ∧
    ¬ Plan.FallsBackToNull
      ⟨"1.0", "/", [.mapValue [⟨"code", "label", [("A", .str "Alpha")], some .null⟩]]⟩
      (.arr [.obj [("code", .str "A")]]) 0 ∧
    Plan.KeepsOutcome
      ⟨"1.0", "/", [.mapValue [⟨"code", "label", [("A", .str "Alpha")], some .null⟩]]⟩
      (.arr [.obj [("code", .str "A")]]) 0 := by
  have accepted :
      Plan.check ⟨"1.0", "/", [.mapValue [⟨"code", "label", [("A", .str "Alpha")], some .null⟩]]⟩ =
        .ok [] := by rfl
  have unused :
      ¬ Plan.FallsBackToNull
        ⟨"1.0", "/", [.mapValue [⟨"code", "label", [("A", .str "Alpha")], some .null⟩]]⟩
        (.arr [.obj [("code", .str "A")]]) 0 := by
    rintro ⟨records, bounded, extracted, cut, _, _, _, falls | ⟨⟨⟩⟩⟩
    cases extracted
    cases cut
    rcases falls with ⟨row, rowMember, spec, specMember, _, ⟨text, shown, unmapped⟩, _⟩
    cases List.mem_singleton.1 rowMember
    cases List.mem_singleton.1 specMember
    cases shown
    cases unmapped
  exact ⟨accepted, unused,
    ((Plan.keepsOutcome_iff_not_fallsBackToNull _ accepted).2 _ 0).2 unused _ [] rfl accepted⟩

/-- A fallback of null is lost: on a code that the table lacks, the plan gives null, and the plan that is
read back gives the code. -/
theorem Plan.null_fallback_lost :
    Plan.check ⟨"1.0", "/", [.mapValue [⟨"code", "label", [("A", .str "Alpha")], some .null⟩]]⟩ =
      .ok [] ∧
    Plan.execute ⟨"1.0", "/", [.mapValue [⟨"code", "label", [("A", .str "Alpha")], some .null⟩]]⟩
        (.arr [.obj [("code", .str "B")]]) 0 =
      .ok (.done ⟨[[("code", .str "B"), ("label", .null)]], []⟩) ∧
    ∃ reread,
      Plan.load (Plan.toValue
        ⟨"1.0", "/", [.mapValue [⟨"code", "label", [("A", .str "Alpha")], some .null⟩]]⟩) =
          .ok reread ∧
      reread.execute (.arr [.obj [("code", .str "B")]]) 0 =
        .ok (.done ⟨[[("code", .str "B"), ("label", .str "B")]], []⟩) ∧
      reread.execute (.arr [.obj [("code", .str "B")]]) 0 ≠
        Plan.execute ⟨"1.0", "/", [.mapValue [⟨"code", "label", [("A", .str "Alpha")], some .null⟩]]⟩
          (.arr [.obj [("code", .str "B")]]) 0 := by
  refine ⟨by rfl, by rfl, _, by rfl, by rfl, ?_⟩
  intro same
  have sameRows := congrArg Table.rows (Execution.done.inj (Except.ok.inj same))
  cases sameRows

end RowPlan
