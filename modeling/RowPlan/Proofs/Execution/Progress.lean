import RowPlan.Execution.Run
import RowPlan.Proofs.Condition.Stopping
import RowPlan.Proofs.Execution.Arithmetic
import RowPlan.Proofs.Plan.Acceptance

/-!
# Accepted plans run to the end

A plan can stop its run at four places: at an expression that does not parse, at a filter without a
condition, at a metric without a field, and at an unknown aggregate function. The plan rules exclude all
four. What is left is a value that stops a run for want of a text, where a test for containment or a mapping
needs it: a valid step fails exactly where it comes to one, and valid steps exactly where one of them does.
On values in which no integer has too many digits every run completes.

The other partial operations of a run are excluded or guarded as well: a negation that is evaluated
has its item, sort keys are compared by value only within one type, and arithmetic that has no finite
result gives null.
-/

namespace RowPlan

open Outcome (FailsFor Succeeds)

/-! ## Where a run could stop -/

/-- Texts that a plan gives for expressions parse again when a step runs. -/
theorem ValidText.parses
    {text : String} (valid : ValidText text) :
    ∃ expr, StepResult.parseExpr text = .ok expr := by
  rcases valid with ⟨_, expr, parsed⟩
  exact ⟨expr, Outcome.mapError_eq_ok_iff.2 parsed⟩

theorem StepResult.given?_eq_some_iff (text : Option String) (given : String) :
    given? text = some given ↔ text = some given ∧ given ≠ "" := by
  rw [given?]
  rw [Option.filter_eq_some_iff]
  simp

/-- The expression texts that a step runs. -/
def Step.texts : Step → List String
  | .filter (some (.expr text)) => [text]
  | .compute specs => specs.map (·.expr)
  | .aggregate metrics => metrics.filterMap (·.expr)
  | _ => []

/-- The metrics that a step computes. -/
def Step.metrics : Step → List MetricSpec
  | .aggregate metrics => metrics
  | _ => []

/-- The condition trees that a step evaluates. -/
def Step.trees : Step → List Condition
  | .filter (some (.tree condition)) => [condition]
  | _ => []

theorem Step.Valid.text
    {previous next : Option Step} {step : Step} (valid : step.Valid previous next)
    {text : String} (member : text ∈ step.texts) :
    ValidText text := by
  cases step with
  | filter condition =>
      rcases valid with ⟨kept, rfl, keptValid⟩
      cases kept with
      | expr given =>
          rw [List.mem_singleton.1 member]
          exact keptValid
      | tree condition => cases member
  | compute specs =>
      rcases List.mem_map.1 member with ⟨spec, specMember, rfl⟩
      exact (valid.2.1 spec specMember).2
  | aggregate metrics =>
      rcases List.mem_filterMap.1 member with ⟨metric, metricMember, given⟩
      exact (valid.2.1 metric metricMember).expr text given
  | _ => cases member

theorem Step.Valid.metric
    {previous next : Option Step} {step : Step} (valid : step.Valid previous next)
    {metric : MetricSpec} (member : metric ∈ step.metrics) :
    metric.Valid := by
  cases step with
  | aggregate metrics => exact valid.2.1 metric member
  | _ => cases member

theorem Step.Valid.tree
    {previous next : Option Step} {step : Step} (valid : step.Valid previous next)
    {tree : Condition} (member : tree ∈ step.trees) :
    tree.Valid := by
  cases step with
  | filter condition =>
      rcases valid with ⟨kept, rfl, keptValid⟩
      cases kept with
      | expr text => cases member
      | tree given =>
          rw [List.mem_singleton.1 member]
          exact keptValid
  | _ => cases member

theorem StepsValid.step
    {previous : Option Step} {steps : List Step} (valid : StepsValid previous steps)
    {step : Step} (member : step ∈ steps) :
    ∃ before after, step.Valid before after := by
  induction steps generalizing previous with
  | nil => cases member
  | cons first rest later =>
      rcases List.mem_cons.1 member with rfl | member
      · exact ⟨previous, rest.head?, valid.1⟩
      · exact later valid.2 member

/-! ## Metrics -/

/-- A metric of which nothing is missing when it is computed. -/
structure MetricSpec.Computable (metric : MetricSpec) : Prop where
  function :
    ∀ values count, ∃ value, Metric.compute metric.function values count = .ok value
  field :
    metric.function ≠ "count" → StepResult.given? metric.expr = none →
      ∃ field, metric.field = some field ∧ field ≠ ""

theorem Metric.compute_succeeds
    {function : String} (known : function ∈ aggregateFunctions)
    (values : List (Option Value)) (count : Nat) :
    ∃ value, compute function values count = .ok value := by
  simp only [aggregateFunctions, List.mem_cons, List.not_mem_nil, or_false] at known
  rcases known with rfl | rfl | rfl | rfl | rfl <;> exact ⟨_, rfl⟩

theorem MetricSpec.Valid.computable
    {metric : MetricSpec} (valid : metric.Valid) :
    metric.Computable where
  function := Metric.compute_succeeds valid.function
  field := by
    intro notCount notGiven
    rcases valid.source with count | field | ⟨text, given, notEmpty⟩
    · exact absurd count notCount
    · exact field
    · have present := (StepResult.given?_eq_some_iff metric.expr text).2 ⟨given, notEmpty⟩
      cases notGiven.symm.trans present

theorem StepResult.metricValues_succeeds
    {metric : MetricSpec} (valid : metric.Valid) (notCount : metric.function ≠ "count")
    (sample : Row) (rows : List Row) :
    ∃ values, metricValues metric sample rows = .ok values := by
  rw [metricValues]
  cases given : given? metric.expr with
  | some text =>
      rcases (given?_eq_some_iff metric.expr text).1 given with ⟨written, _⟩
      rcases (valid.expr text written).parses with ⟨expr, parsed⟩
      dsimp only
      rw [parsed]
      exact ⟨_, rfl⟩
  | none =>
      rcases valid.computable.field notCount given with ⟨field, named, _⟩
      rw [named]
      exact ⟨_, rfl⟩

theorem StepResult.metricValue_succeeds
    {metric : MetricSpec} (valid : metric.Valid) (sample : Row) (rows : List Row) :
    ∃ value, metricValue metric sample rows = .ok value := by
  have fromValues (values : List (Option Value)) :
      ∃ value,
        (Metric.compute metric.function values rows.length).mapError StepError.unknownFunction =
          .ok value := by
    rcases valid.computable.function values rows.length with ⟨value, computed⟩
    exact ⟨value, Outcome.mapError_eq_ok_iff.2 computed⟩
  rw [metricValue]
  dsimp only
  split
  · exact fromValues []
  · rename_i notCount
    rcases metricValues_succeeds valid notCount sample rows with ⟨values, gathered⟩
    rw [gathered]
    exact fromValues values

theorem StepResult.groupRow_succeeds
    {metrics : List MetricSpec} (valid : ∀ metric ∈ metrics, metric.Valid)
    (sample : Row) (group : Group) :
    ∃ row, groupRow metrics sample group = .ok row := by
  apply Outcome.foldlM_succeeds
  intro metric member before
  rcases metricValue_succeeds (valid metric member) sample group.rows with ⟨value, computed⟩
  exact ⟨before.set metric.target value, Outcome.bind_eq_ok_iff.2 ⟨value, computed, rfl⟩⟩

/-! ## Steps -/

theorem StepResult.compileFilter_succeeds
    {filter : Filter} (valid : filter.Valid) :
    ∃ compiled, compileFilter filter = .ok compiled := by
  cases filter with
  | expr text =>
      rcases ValidText.parses valid with ⟨expr, parsed⟩
      exact ⟨_, Outcome.map_eq_ok_iff.2 ⟨expr, parsed, rfl⟩⟩
  | tree condition => exact ⟨_, rfl⟩

theorem StepResult.compileSpecs_succeeds
    {specs : List ComputeSpec}
    (parse : ∀ spec ∈ specs, ∃ expr, parseExpr spec.expr = .ok expr) :
    ∃ compiled, compileSpecs specs = .ok compiled := by
  apply Outcome.mapM_succeeds
  intro spec member
  rcases parse spec member with ⟨expr, parsed⟩
  exact ⟨(spec.target, expr), Outcome.map_eq_ok_iff.2 ⟨expr, parsed, rfl⟩⟩

/-- A filter comes to a text that is lacking. An expression has no test that needs one. -/
def Filter.Stops (row : Row) : Filter → Prop
  | .expr _ => False
  | .tree condition => condition.Stops row

/-- The value that a mapping looks up by its text has none. -/
def MapSpec.Stops (sample row : Row) (spec : MapSpec) : Prop :=
  ¬ (Field.readOrNull row (Field.resolve spec.source sample)).Writable

/-- A step comes to a text that is lacking on one of its rows. -/
def Step.Stops (state : State) : Step → Prop
  | .filter (some kept) => ∃ row ∈ state.rows, kept.Stops row
  | .mapValue specs =>
      ∃ row ∈ state.rows, ∃ spec ∈ specs, spec.Stops (Records.sample state.rows) row
  | _ => False

namespace StepResult

/-- The rows to keep are found unless the condition fails on one of the rows. -/
theorem keepRows_fails
    {holds : Row → Except TextError (Option Bool)} {stops : Row → Prop} {rows : List Row}
    (each : ∀ row ∈ rows, FailsFor (holds row) .tooManyDigits (stops row)) :
    FailsFor (keepRows holds rows) .tooManyDigits (∃ row ∈ rows, stops row) := by
  refine TextError.failsFor ?_
  induction rows with
  | nil => simp [keepRows]
  | cons row rest later =>
      rw [List.forall_mem_cons] at each
      rw [keepRows, Outcome.succeeds_bind_iff]
      simp only [Outcome.succeeds_bind_ok_iff, exists_and_right, later each.2, List.mem_cons,
        exists_eq_or_imp, not_or]
      exact and_congr_left' each.1.succeeds_iff

theorem mapped_fails (spec : MapSpec) (value : Value) :
    FailsFor (mapped spec value) .tooManyDigits (¬ value.Writable) := by
  refine TextError.failsFor ?_
  rw [mapped, Outcome.succeeds_bind_ok_iff, Value.succeeds_display_iff, not_not]

theorem mapRow_fails (specs : List MapSpec) (sample row : Row) :
    FailsFor (mapRow (specs.map fun spec => (spec, Field.resolve spec.source sample)) row) .tooManyDigits
      (∃ spec ∈ specs, spec.Stops sample row) := by
  have fields :=
    FailsFor.mapM fun (placed : MapSpec × Field.Resolution)
      (_ : placed ∈ specs.map fun spec => (spec, Field.resolve spec.source sample)) =>
        (mapped_fails placed.1 (Field.readOrNull row placed.2)).map fun image =>
          (placed.1.target, image)
  refine (fields.map (row.setAll ·)).congr ?_
  simp [MapSpec.Stops]

end StepResult

theorem StepResult.holds_fails
    {filter : Filter} {references : List String} {holds : Row → Except TextError (Option Bool)}
    (compiled : compileFilter filter = .ok (references, holds)) (row : Row) :
    FailsFor (holds row) .tooManyDigits (filter.Stops row) := by
  cases filter with
  | expr text =>
      rcases Outcome.map_eq_ok_iff.1 compiled with ⟨expr, _, made⟩
      cases made
      exact .ok _ _
  | tree condition =>
      cases compiled
      exact condition.eval_fails row

/-- The only failure of a filter that is ready to run is a text that is lacking on one of the rows. -/
theorem StepResult.filter_fails
    {filter : Filter} {references : List String} {holds : Row → Except TextError (Option Bool)}
    (compiled : compileFilter filter = .ok (references, holds)) (state : State) :
    FailsFor (StepResult.filter (some filter) state) (.text .tooManyDigits)
      (∃ row ∈ state.rows, filter.Stops row) := by
  have keeps := keepRows_fails fun row (_ : row ∈ state.rows) => holds_fails compiled row
  simp only [StepResult.filter, compiled]
  split
  · rename_i noRows
    exact (FailsFor.ok _ _).congr (by simp [List.isEmpty_iff.1 noRows])
  · exact (keeps.mapError StepError.text).bind_ok _

/-- The only failure of a mapping is a text that is lacking on one of the rows. -/
theorem StepResult.mapValue_fails (specs : List MapSpec) (state : State) :
    FailsFor (StepResult.mapValue specs state) (.text .tooManyDigits)
      (∃ row ∈ state.rows, ∃ spec ∈ specs, spec.Stops (Records.sample state.rows) row) := by
  have maps := FailsFor.mapM fun row (_ : row ∈ state.rows) =>
    mapRow_fails specs (Records.sample state.rows) row
  simp only [StepResult.mapValue]
  split
  · rename_i noRows
    exact (FailsFor.ok _ _).congr (by simp [List.isEmpty_iff.1 noRows])
  · exact (maps.mapError StepError.text).bind_ok _

theorem StepResult.aggregate_succeeds
    {metrics : List MetricSpec} (each : ∀ spec ∈ metrics, spec.Valid) (state : State) :
    Succeeds (StepResult.aggregate metrics state) := by
  have grouped :
      ∃ rows,
        (state.groups.getD [⟨[], state.rows⟩]).mapM (groupRow metrics (Records.sample state.rows)) =
          .ok rows :=
    Outcome.mapM_succeeds fun group _ => groupRow_succeeds each (Records.sample state.rows) group
  rcases grouped with ⟨rows, grouped⟩
  simp only [StepResult.aggregate, grouped]
  exact ⟨_, rfl⟩

/-- The only failure of a valid step is a text that is lacking, where the step comes to it. -/
theorem Step.run_fails
    {previous next : Option Step} {step : Step} (valid : step.Valid previous next)
    (state : State) :
    FailsFor (step.run state) (.text .tooManyDigits) (step.Stops state) := by
  have succeeds {outcome : StepResult} (done : Succeeds outcome) :
      FailsFor outcome (.text .tooManyDigits) False := by
    rcases done with ⟨result, rfl⟩
    exact .ok result _
  -- Without rows no step looks at anything; on rows, filters and mappings fail where one of the rows does.
  cases step with
  | select fields =>
      refine succeeds ?_
      simp only [run, StepResult.select]
      split <;> exact ⟨_, rfl⟩
  | filter condition =>
      rcases valid with ⟨kept, rfl, keptValid⟩
      rcases StepResult.compileFilter_succeeds keptValid with ⟨⟨references, holds⟩, compiled⟩
      exact StepResult.filter_fails compiled state
  | compute specs =>
      refine succeeds ?_
      rcases StepResult.compileSpecs_succeeds fun spec member => (valid.2.1 spec member).2.parses with
        ⟨compiled, parsed⟩
      simp only [run, StepResult.compute, parsed]
      split <;> exact ⟨_, rfl⟩
  | mapValue specs => exact StepResult.mapValue_fails specs state
  | sort by_ direction =>
      refine succeeds ?_
      simp only [run, StepResult.sort]
      split <;> exact ⟨_, rfl⟩
  | groupBy keys => exact succeeds ⟨_, rfl⟩
  | aggregate metrics => exact succeeds (StepResult.aggregate_succeeds valid.2.1 state)
  | limit count =>
      rcases valid with ⟨n, rfl, _⟩
      exact succeeds ⟨_, rfl⟩

theorem runFrom_cons_of_ok
    {state next : State} {step : Step} {notes : List Field.Note} (ran : step.run state = .ok (next, notes))
    (rest : List Step) :
    runFrom state (step :: rest) =
      (runFrom next rest).map fun final => (final.1, notes ++ final.2) := by
  rw [runFrom, ran]
  rfl

theorem runFrom_cons_of_error
    {state : State} {step : Step} {error : StepError} (failed : step.run state = .error error)
    (rest : List Step) :
    runFrom state (step :: rest) = .error error := by
  rw [runFrom, failed]
  rfl

theorem runFrom_cons_eq_ok_iff
    {state final : State} {step : Step} {rest : List Step} {notes : List Field.Note} :
    runFrom state (step :: rest) = .ok (final, notes) ↔
      ∃ next stepNotes restNotes,
        step.run state = .ok (next, stepNotes) ∧ runFrom next rest = .ok (final, restNotes) ∧
          notes = stepNotes ++ restNotes := by
  rw [runFrom, Outcome.bind_eq_ok_iff]
  constructor
  · rintro ⟨⟨next, stepNotes⟩, ran, others⟩
    rcases Outcome.bind_eq_ok_iff.1 others with ⟨⟨reached, restNotes⟩, restRan, result⟩
    cases result
    exact ⟨next, stepNotes, restNotes, ran, restRan, rfl⟩
  · rintro ⟨next, stepNotes, restNotes, ran, restRan, rfl⟩
    exact ⟨(next, stepNotes), ran, Outcome.bind_eq_ok_iff.2 ⟨(final, restNotes), restRan, rfl⟩⟩

/-- Joined steps run one after the other, unless the first ones stop, and collect the notes of both. -/
theorem runFrom_append_eq_bind (state : State) (first second : List Step) :
    runFrom state (first ++ second) =
      runFrom state first >>= fun middle =>
        (runFrom middle.1 second).map fun final => (final.1, middle.2 ++ final.2) := by
  induction first generalizing state with
  | nil =>
      change runFrom state second = (runFrom state second).map fun final => (final.1, final.2)
      cases runFrom state second <;> rfl
  | cons step rest later =>
      rw [List.cons_append, runFrom, runFrom]
      cases step.run state with
      | error error => rfl
      | ok next =>
          change (runFrom next.1 (rest ++ second) >>= fun final => .ok (final.1, next.2 ++ final.2)) =
            (runFrom next.1 rest >>= fun final => .ok (final.1, next.2 ++ final.2)) >>= _
          rw [later]
          cases runFrom next.1 rest with
          | error error => rfl
          | ok middle =>
              change (Except.map _ (runFrom middle.1 second) >>= _) = Except.map _ _
              cases runFrom middle.1 second with
              | error error => rfl
              | ok final =>
                  exact congrArg (fun notes => Except.ok (final.1, notes))
                    (List.append_assoc _ _ _).symm

theorem runFrom_append_eq_ok_iff
    {state final : State} {first second : List Step} {notes : List Field.Note} :
    runFrom state (first ++ second) = .ok (final, notes) ↔
      ∃ middle firstNotes secondNotes,
        runFrom state first = .ok (middle, firstNotes) ∧
        runFrom middle second = .ok (final, secondNotes) ∧ notes = firstNotes ++ secondNotes := by
  rw [runFrom_append_eq_bind]
  constructor
  · intro ran
    rcases Outcome.bind_eq_ok_iff.1 ran with ⟨⟨middle, firstNotes⟩, firstRan, rest⟩
    rcases Outcome.map_eq_ok_iff.1 rest with ⟨⟨reached, secondNotes⟩, secondRan, same⟩
    cases same
    exact ⟨middle, firstNotes, secondNotes, firstRan, secondRan, rfl⟩
  · rintro ⟨middle, firstNotes, secondNotes, firstRan, secondRan, rfl⟩
    exact Outcome.bind_eq_ok_iff.2
      ⟨(middle, firstNotes), firstRan, Outcome.map_eq_ok_iff.2 ⟨_, secondRan, rfl⟩⟩

/-- Running steps from a state comes to a step that comes to a text that is lacking. -/
inductive StopsFrom : State → List Step → Prop where
  | here {state step rest} : step.Stops state → StopsFrom state (step :: rest)
  | later {state step rest next notes} :
      step.run state = .ok (next, notes) → StopsFrom next rest → StopsFrom state (step :: rest)

/-- The run of a plan on rows comes to a text that is lacking. -/
def Plan.Stops (plan : Plan) (rows : List Row) : Prop := StopsFrom ⟨rows, none⟩ plan.steps

theorem not_stopsFrom_nil (state : State) : ¬ StopsFrom state [] := nofun

theorem stopsFrom_cons_iff {state : State} {step : Step} {rest : List Step} :
    StopsFrom state (step :: rest) ↔
      step.Stops state ∨
        ∃ reached, step.run state = .ok reached ∧ StopsFrom reached.1 rest := by
  constructor
  · rintro (stops | ⟨ran, stops⟩)
    · exact .inl stops
    · exact .inr ⟨_, ran, stops⟩
  · rintro (stops | ⟨reached, ran, stops⟩)
    · exact .here stops
    · exact .later ran stops

/-- The only failure of valid steps is a text that is lacking, where their run comes to it. -/
theorem runFrom_fails
    {previous : Option Step} {steps : List Step} (valid : StepsValid previous steps)
    (state : State) :
    FailsFor (runFrom state steps) (.text .tooManyDigits) (StopsFrom state steps) := by
  induction steps generalizing previous state with
  | nil => exact (FailsFor.ok _ _).congr (iff_of_false id (not_stopsFrom_nil state))
  | cons step rest later =>
      exact ((Step.run_fails valid.1 state).bind fun reached _ =>
        (later valid.2 reached.1).map fun final => (final.1, reached.2 ++ final.2)).congr
          stopsFrom_cons_iff.symm

/-- The only failure of a valid plan on rows is a text that is lacking, where its run comes to it. -/
theorem Plan.runSteps_fails
    {plan : Plan} (valid : plan.Valid) (rows : List Row) :
    FailsFor (plan.runSteps rows) (.text .tooManyDigits) (plan.Stops rows) :=
  (runFrom_fails valid.steps ⟨rows, none⟩).bind_ok fun reached : State × List Field.Note =>
    Table.mk reached.1.rows (reached.2.map Field.Note.message).eraseDups

theorem truncateRows_zero (rows : List Row) : truncateRows 0 rows = .ok (rows, []) := by
  simp [truncateRows]

/-- The bound is quoted where it leaves out rows, which needs its text. -/
theorem truncateRows_fails (maxRows : Int) (rows : List Row) :
    FailsFor (truncateRows maxRows rows) .tooManyDigits
      (maxRows ≠ 0 ∧ maxRows < rows.length ∧ ¬ Decimal.Writable maxRows) := by
  refine TextError.failsFor ?_
  rw [truncateRows]
  split
  · rename_i truncates
    rw [Outcome.succeeds_bind_ok_iff, Decimal.succeeds_writeInteger_iff]
    simp [truncates]
  · rename_i keepsAll
    refine iff_of_true (Outcome.succeeds_ok _) ?_
    rintro ⟨bounded, fewer, _⟩
    exact keepsAll ⟨bounded, fewer⟩

/-- The run of a plan on a document comes to a text that is lacking. -/
def Plan.StopsOn (plan : Plan) (document : Value) (maxRows : Int) : Prop :=
  ∃ records, Records.extract document plan.recordPath = .ok records ∧
    ((maxRows ≠ 0 ∧ maxRows < records.rows.length ∧ ¬ Decimal.Writable maxRows) ∨
      ∃ bounded, truncateRows maxRows records.rows = .ok bounded ∧ plan.Stops bounded.1)

/-- The only failure of a valid plan on a document is a text that is lacking. -/
theorem Plan.Valid.runOn_fails
    {plan : Plan} (valid : plan.Valid) (document : Value) (maxRows : Int) :
    FailsFor (plan.runOn document maxRows) (.text .tooManyDigits) (plan.StopsOn document maxRows) := by
  rw [Plan.runOn]
  cases extracted : Records.extract document plan.recordPath with
  | error error => exact (FailsFor.ok _ _).congr (by simp [StopsOn, extracted])
  | ok records =>
      have bounds := (truncateRows_fails maxRows records.rows).mapError StepError.text
      refine (bounds.bind fun bounded _ =>
        (Plan.runSteps_fails valid bounded.1).map fun table => Execution.done _).congr ?_
      simp [StopsOn, extracted, Outcome.mapError_eq_ok_iff]

theorem Plan.Valid.execute_eq
    {plan : Plan} (valid : plan.Valid) (document : Value) (maxRows : Int) :
    plan.execute document maxRows = plan.runOn document maxRows := by
  rw [Plan.execute, (plan.validate_eq_ok_iff plan).2 ⟨rfl, valid⟩]

/-! ## Negations -/

/-- Evaluating a condition tree reaches a node: the tree itself, or a node that evaluating a part of a
logical node reaches. The parts of a test are not evaluated. -/
inductive Condition.Evaluates : Condition → Condition → Prop where
  | here {tree} : Evaluates tree tree
  | part {op left right items item node} :
      op ∈ Condition.logicalOps → item ∈ items → Evaluates item node →
      Evaluates (.node op left right (some items)) node

/-- No name stands for both a test and a logical operator. -/
theorem Condition.Test.not_mem_logicalOps
    {op : String} (test : op ∈ Test.names) :
    op ∉ Condition.logicalOps := by
  intro logical
  simp only [Condition.logicalOps, List.mem_cons, List.not_mem_nil, or_false] at logical
  rcases logical with rfl | rfl | rfl <;> revert test <;> decide

/-- Every node that evaluating a valid tree reaches is valid. -/
theorem Condition.Evaluates.valid
    {tree node : Condition} (reached : tree.Evaluates node) (valid : tree.Valid) :
    node.Valid := by
  induction reached with
  | here => exact valid
  | part logical member _ inner =>
      cases valid with
      | negation itemValid =>
          cases List.mem_singleton.1 member
          exact inner itemValid
      | joined _ _ itemsValid => exact inner (itemsValid _ member)
      | test known => exact absurd logical (Test.not_mem_logicalOps known)

theorem Condition.Valid.item
    {left right : Option Value} {items : Option (List Condition)}
    (valid : Condition.Valid (.node "not" left right items)) :
    ∃ item, items = some [item] := by
  generalize negation : Condition.node "not" left right items = tree at valid
  cases valid with
  | @negation _ _ item _ =>
      cases negation
      exact ⟨item, rfl⟩
  | joined joins =>
      cases negation
      rcases joins with impossible | impossible <;> exact absurd impossible (by decide)
  | test known =>
      cases negation
      exact absurd known (by decide)

/-! ## Sort keys -/

/-- The place of the type of a sort key among the types. -/
def SortKey.rank : SortKey → Nat
  | .number _ => 0
  | .text _ => 1
  | .truth _ => 2

/-- The order of two sort keys by their values, which only values of one type have. -/
def SortKey.below? : SortKey → SortKey → Option Bool
  | .number a, .number b => some (a.lt b)
  | .text a, .text b => some (decide (a < b))
  | .truth a, .truth b => some (!a && b)
  | _, _ => none

/-- Keys of one type are compared by their values, which are comparable, and keys of different types
by their types alone. -/
theorem SortKey.lt_eq_below? (a b : SortKey) :
    some (a.lt b) = if a.rank = b.rank then a.below? b else some (decide (a.rank < b.rank)) := by
  cases a <;> cases b <;> rfl

/-! ## Accepted plans -/

/-- Nothing in a plan can stop its run. The run completes on all rows, unless it comes to an integer with
more digits than can be written where it needs the text of it, and then that is what stops it. Expressions
parse, metrics have a known function and something to read, and a negation that is evaluated has its
item. -/
structure Plan.RunsSafely (plan : Plan) : Prop where
  completes : ∀ rows, ¬ plan.Stops rows → ∃ table, plan.runSteps rows = .ok table
  stops : ∀ rows error, plan.runSteps rows = .error error ↔ error = .text .tooManyDigits ∧ plan.Stops rows
  texts :
    ∀ step ∈ plan.steps, ∀ text ∈ step.texts,
      ∃ expr, StepResult.parseExpr text = .ok expr
  metrics : ∀ step ∈ plan.steps, ∀ metric ∈ step.metrics, metric.Computable
  negations :
    ∀ step ∈ plan.steps, ∀ tree ∈ step.trees, ∀ left right items,
      tree.Evaluates (.node "not" left right items) → ∃ item, items = some [item]

/-- Nothing in the values can stop a run: sort keys are compared within one type, and arithmetic, sums
and means give null or a finite number, null exactly for zero divisors, overflows and, in a mean, for
nothing to take it of. -/
structure ValuesGuarded : Prop where
  sortKeys :
    ∀ a b : SortKey,
      some (a.lt b) = if a.rank = b.rank then a.below? b else some (decide (a.rank < b.rank))
  arithmetic :
    ∀ (op : Arithmetic) (left right : Option Value), Arithmetic.FiniteOrNull (op.apply left right)
  arithmeticNull :
    ∀ (op : Arithmetic) (left right : Option Value) (a b : Number),
      left.bind Value.toNumber? = some a → right.bind Value.toNumber? = some b →
        (op.apply left right = .null ↔ (op.Divides ∧ b.isZero = true) ∨ op.Overflows a b)
  sum :
    ∀ values count, ∃ value,
      Metric.compute "sum" values count = .ok value ∧ Arithmetic.FiniteOrNull value ∧
        (value = .null ↔ Metric.SumOverflows (Metric.numbers values))
  avg :
    ∀ values count, ∃ value,
      Metric.compute "avg" values count = .ok value ∧ Arithmetic.FiniteOrNull value ∧
        (value = .null ↔
          Metric.numbers values = [] ∨ Metric.SumOverflows (Metric.numbers values) ∨
            ∃ total, Metric.sum? (Metric.numbers values) = some total ∧
              Arithmetic.div.Overflows total (.int (Metric.numbers values).length))

/-- A plan in which the rules find nothing wrong cannot fail on data, the digits of integers that have to be
written apart. -/
theorem Plan.runs_safely_of_check
    (plan : Plan) (accepted : plan.check = .ok []) :
    plan.RunsSafely ∧ ValuesGuarded := by
  have valid : plan.Valid := plan.check_eq_nil_iff.1 accepted
  constructor
  · have fails := Plan.runSteps_fails valid
    refine ⟨fun rows => (fails rows).succeeds_iff.2, fails, ?_, ?_, ?_⟩
    · intro step member text textMember
      rcases valid.steps.step member with ⟨_, _, stepValid⟩
      exact (stepValid.text textMember).parses
    · intro step member metric metricMember
      rcases valid.steps.step member with ⟨_, _, stepValid⟩
      exact (stepValid.metric metricMember).computable
    · intro step member tree treeMember left right items reached
      rcases valid.steps.step member with ⟨_, _, stepValid⟩
      exact (reached.valid (stepValid.tree treeMember)).item
  · exact {
      sortKeys := SortKey.lt_eq_below?
      arithmetic := Arithmetic.apply_finiteOrNull
      arithmeticNull := fun op _ _ _ _ => op.apply_eq_null_iff
      sum := Metric.compute_sum
      avg := Metric.compute_avg }

/-- A filter that negates, a computed quotient and a grouped mean run safely. -/
theorem Plan.runs_safely_grouped_mean :
    Plan.check ⟨"1.0", "/", [
        .filter (some (.tree (.node "not" none none (some [
          .node "eq" (some (.obj [("field", .str "n")])) (some (.ofInt 0)) none])))),
        .compute [⟨"r", "1 / n"⟩],
        .groupBy ["k"],
        .aggregate [⟨"m", "avg", some "r", none⟩, ⟨"c", "count", none, none⟩]]⟩ = .ok [] ∧
    Plan.RunsSafely ⟨"1.0", "/", [
        .filter (some (.tree (.node "not" none none (some [
          .node "eq" (some (.obj [("field", .str "n")])) (some (.ofInt 0)) none])))),
        .compute [⟨"r", "1 / n"⟩],
        .groupBy ["k"],
        .aggregate [⟨"m", "avg", some "r", none⟩, ⟨"c", "count", none, none⟩]]⟩ ∧
    ValuesGuarded := by
  have accepted :
      Plan.check ⟨"1.0", "/", [
          .filter (some (.tree (.node "not" none none (some [
            .node "eq" (some (.obj [("field", .str "n")])) (some (.ofInt 0)) none])))),
          .compute [⟨"r", "1 / n"⟩],
          .groupBy ["k"],
          .aggregate [⟨"m", "avg", some "r", none⟩, ⟨"c", "count", none, none⟩]]⟩ = .ok [] := by rfl
  exact ⟨accepted, Plan.runs_safely_of_check _ accepted⟩

end RowPlan
