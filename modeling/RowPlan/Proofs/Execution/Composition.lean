import RowPlan.Proofs.Execution.Progress
import RowPlan.Proofs.FirstOccurrences
import RowPlan.Proofs.Plan.Reading

/-!
# Running one plan after another

Two plans can be joined into one: the steps of the second follow those of the first. The joined plan is
accepted when both are, and it gives what the second plan gives on the rows of the first. Three facts
carry this. Steps run one after the other as lists do, a grouping never stays behind at the end of a
valid plan, and the rows of a table are read back as they are, with nothing to say about them.

The second part runs on rows that the first one has made, and computed integers can have more digits than
can be written. Where the second part needs the text of such an integer, it is stopped, and so is the joined
plan, although the first part has a table.

Warnings are reported once each, in every run of its own; reporting them once over both runs is the
same.
-/

namespace RowPlan

/-! ## Joined steps -/

/-- The steps of a plan followed by those of another one. -/
def Plan.followedBy (first second : Plan) : Plan :=
  { first with steps := first.steps ++ second.steps }

/-- A step that is valid at the end of a plan is valid in front of any step: only a grouping asks for a
step after it, and it is not valid at the end. -/
theorem Step.Valid.before
    {previous : Option Step} {step : Step} (valid : step.Valid previous none)
    (next : Option Step) :
    step.Valid previous next := by
  cases step with
  | groupBy keys => cases valid.2.2
  | _ => exact valid

theorem Step.Valid.after
    {next : Option Step} {step : Step} (valid : step.Valid none next)
    (previous : Option Step) :
    step.Valid previous next := by
  cases step with
  | aggregate metrics =>
      rcases valid with ⟨given | grouped, metricsValid⟩
      · exact ⟨.inl given, metricsValid⟩
      · cases grouped
  | _ => exact valid

theorem StepsValid.append
    {previous : Option Step} {first second : List Step}
    (firstValid : StepsValid previous first) (secondValid : StepsValid none second) :
    StepsValid previous (first ++ second) := by
  induction first generalizing previous with
  | nil =>
      cases second with
      | nil => trivial
      | cons step rest => exact ⟨secondValid.1.after previous, secondValid.2⟩
  | cons step rest later =>
      refine ⟨?_, later firstValid.2⟩
      cases rest with
      | nil => exact firstValid.1.before _
      | cons next others => exact firstValid.1

theorem Plan.Valid.followedBy
    {first second : Plan} (firstValid : first.Valid) (secondValid : second.Valid) :
    (first.followedBy second).Valid where
  version := firstValid.version
  recordPath := firstValid.recordPath
  steps := firstValid.steps.append secondValid.steps

/-! ## Joined runs -/

/-- What a step does to the groups that are waiting for an aggregation: a grouping makes some, an
aggregation uses them up, and no other step touches them. -/
theorem Step.run_groups
    {step : Step} {state reached : State} {notes : List Field.Note}
    (ran : step.run state = .ok (reached, notes)) :
    step.op = "groupBy" ∨ (step.op = "aggregate" ∧ reached.groups = none) ∨
      reached.groups = state.groups := by
  cases step with
  | select fields =>
      simp only [run, StepResult.select] at ran
      split at ran <;> cases ran <;> exact .inr (.inr rfl)
  | filter condition =>
      simp only [run, StepResult.filter] at ran
      split at ran
      · cases ran
        exact .inr (.inr rfl)
      · split at ran
        · cases ran
        · rcases Outcome.bind_eq_ok_iff.1 ran with ⟨_, _, filtered⟩
          rcases Outcome.bind_eq_ok_iff.1 filtered with ⟨_, _, result⟩
          cases result
          exact .inr (.inr rfl)
  | compute specs =>
      simp only [run, StepResult.compute] at ran
      split at ran
      · cases ran
        exact .inr (.inr rfl)
      · rcases Outcome.bind_eq_ok_iff.1 ran with ⟨compiled, _, result⟩
        cases result
        exact .inr (.inr rfl)
  | mapValue specs =>
      simp only [run, StepResult.mapValue] at ran
      split at ran
      · cases ran
        exact .inr (.inr rfl)
      · rcases Outcome.bind_eq_ok_iff.1 ran with ⟨_, _, result⟩
        cases result
        exact .inr (.inr rfl)
  | sort by_ direction =>
      simp only [run, StepResult.sort] at ran
      split at ran <;> cases ran <;> exact .inr (.inr rfl)
  | groupBy keys => exact .inl rfl
  | aggregate metrics =>
      rcases Outcome.bind_eq_ok_iff.1 ran with ⟨rows, _, result⟩
      cases result
      exact .inr (.inl ⟨rfl, rfl⟩)
  | limit count =>
      cases count with
      | none =>
          cases ran
          exact .inr (.inr rfl)
      | some n =>
          cases ran
          exact .inr (.inr rfl)

/-- Groups wait in a state only where the next step is an aggregation. -/
def State.Waits (state : State) (steps : List Step) : Prop :=
  state.groups ≠ none → steps.head?.map Step.op = some "aggregate"

/-- A valid step leaves groups behind only for an aggregation that follows. -/
theorem Step.Valid.waits
    {previous : Option Step} {step : Step} {rest : List Step}
    (valid : step.Valid previous rest.head?) {state reached : State} {notes : List Field.Note}
    (waits : state.Waits (step :: rest)) (ran : step.run state = .ok (reached, notes)) :
    reached.Waits rest := by
  intro left
  rcases Step.run_groups ran with grouping | ⟨_, none⟩ | kept
  · cases step with
    | groupBy keys => exact valid.2.2
    | _ => exact absurd grouping (by simp [Step.op])
  · exact absurd none left
  · -- Groups were there already, so this step was the aggregation that they waited for.
    have aggregation := waits (kept ▸ left)
    cases step with
    | aggregate metrics =>
        rcases Outcome.bind_eq_ok_iff.1 ran with ⟨rows, _, result⟩
        cases result
        exact absurd rfl left
    | _ => exact absurd aggregation (by simp [Step.op])

/-- No groups are left over at the end of valid steps. -/
theorem StepsValid.groups_eq_none
    {previous : Option Step} {steps : List Step} (valid : StepsValid previous steps)
    {state final : State} {notes : List Field.Note}
    (waits : state.Waits steps) (ran : runFrom state steps = .ok (final, notes)) :
    final.groups = none := by
  induction steps generalizing previous state notes with
  | nil =>
      cases ran
      cases left : final.groups with
      | none => rfl
      | some groups => cases waits (by simp [left])
  | cons step rest later =>
      rcases runFrom_cons_eq_ok_iff.1 ran with ⟨next, _, _, stepRan, restRan, rfl⟩
      exact later valid.2 (valid.1.waits waits stepRan) restRan

/-! ## Rows of a table as records -/

/-- The rows of a table, written as an array, are read back as they are and without notes. -/
theorem Records.ofArray_rows (rows : List Row) : ofArray (rows.map .obj) = ⟨rows, []⟩ := by
  have sameRows : (rows.map Value.obj).filterMap rowOf? = rows := by
    rw [List.filterMap_map]
    exact List.filterMap_some
  have noneWrapped : (rows.map Value.obj).countP isWrapped = 0 := by
    rw [List.countP_eq_zero]
    simp [isWrapped]
  have noneSkipped : (rows.map Value.obj).countP isNull = 0 := by
    rw [List.countP_eq_zero]
    simp [isNull]
  simp only [ofArray, sameRows, noneWrapped, noneSkipped]
  rfl

/-! ## Joined plans -/

/-- Without a bound on the rows, a valid plan runs its steps on all records. -/
theorem Plan.Valid.execute_of_extract
    {plan : Plan} (valid : plan.Valid) {document : Value} {records : Records}
    (extracted : Records.extract document plan.recordPath = .ok records) :
    plan.execute document 0 =
      (plan.runSteps records.rows).map fun table =>
        .done ⟨table.rows, (records.warnings ++ table.warnings).eraseDups⟩ := by
  rw [valid.execute_eq, runOn, extracted]
  simp only [truncateRows_zero]
  change
    ((plan.runSteps records.rows).map fun table =>
      Execution.done ⟨table.rows, (records.warnings ++ [] ++ table.warnings).eraseDups⟩) = _
  rw [List.append_nil]

/-- A document without records fails every valid plan alike. -/
theorem Plan.Valid.execute_of_not_extract
    {plan : Plan} (valid : plan.Valid) {document : Value} {error : RecordError}
    (failed : Records.extract document plan.recordPath = .error error) :
    plan.execute document 0 = .ok (.failed (.records error)) := by
  rw [valid.execute_eq, runOn, failed]

theorem Plan.runSteps_eq_map (plan : Plan) (rows : List Row) :
    plan.runSteps rows =
      (runFrom ⟨rows, none⟩ plan.steps).map fun final =>
        ⟨final.1.rows, (final.2.map Field.Note.message).eraseDups⟩ :=
  rfl

/-- A joined plan runs its second part on the rows that its first part leaves. -/
theorem Plan.Valid.runSteps_followedBy
    {first : Plan} (firstValid : first.Valid) (second : Plan) {rows : List Row} {table : Table}
    (firstRan : first.runSteps rows = .ok table) :
    (first.followedBy second).runSteps rows =
      (second.runSteps table.rows).map fun rest =>
        ⟨rest.rows, (table.warnings ++ rest.warnings).eraseDups⟩ := by
  rcases Outcome.map_eq_ok_iff.1 ((first.runSteps_eq_map rows).symm.trans firstRan) with
    ⟨⟨⟨middle, groups⟩, notes⟩, ran, rfl⟩
  obtain rfl : groups = none :=
    firstValid.steps.groups_eq_none (fun impossible => absurd rfl impossible) ran
  rw [runSteps_eq_map, runSteps_eq_map, Plan.followedBy, runFrom_append_eq_bind, ran]
  change Except.map _ (Except.map _ (runFrom ⟨middle, none⟩ second.steps)) = _
  -- What is left are two ways of reporting the same warnings once.
  cases runFrom ⟨middle, none⟩ second.steps with
  | error error => rfl
  | ok final => simp [Except.map]

/-- What the run of a joined plan is when its first part has a table: the run of the second part on the
rows of that table, with the warnings of both. -/
theorem Plan.Valid.execute_followedBy
    {first second : Plan} (firstValid : first.Valid) (secondValid : second.Valid)
    (fromRoot : second.recordPath = Pointer.root)
    {document : Value} {table : Table}
    (firstDone : first.execute document 0 = .ok (.done table)) :
    ∃ run : Except StepError Table,
      Outcome.FailsFor run (.text .tooManyDigits) (second.Stops table.rows) ∧
      second.execute (.arr (table.rows.map .obj)) 0 = run.map Execution.done ∧
      (first.followedBy second).execute document 0 =
        run.map fun rest => .done ⟨rest.rows, (table.warnings ++ rest.warnings).eraseDups⟩ := by
  cases extracted : Records.extract document first.recordPath with
  | error error => cases (firstValid.execute_of_not_extract extracted).symm.trans firstDone
  | ok records =>
      rw [firstValid.execute_of_extract extracted] at firstDone
      rcases Outcome.map_eq_ok_iff.1 firstDone with ⟨middle, ran, made⟩
      cases made
      have readBack :
          Records.extract (.arr (middle.rows.map .obj)) second.recordPath = .ok ⟨middle.rows, []⟩ := by
        rw [fromRoot, ← Records.ofArray_rows]
        rfl
      have extractedJoined :
          Records.extract document (first.followedBy second).recordPath = .ok records := extracted
      refine ⟨_, (Plan.runSteps_fails secondValid middle.rows).map fun rest =>
        Table.mk rest.rows rest.warnings.eraseDups, ?_, ?_⟩
      · rw [secondValid.execute_of_extract readBack]
        cases second.runSteps middle.rows with
        | error error => rfl
        | ok rest => simp [Except.map, Records.warnings]
      · rw [(firstValid.followedBy secondValid).execute_of_extract extractedJoined,
          firstValid.runSteps_followedBy second ran]
        cases second.runSteps middle.rows with
        | error error => rfl
        | ok rest => simp [Except.map, List.append_assoc]

/-! ## Written plans -/

theorem execute_of_load
    {value : Value} {plan : Plan} (loaded : Plan.load value = .ok plan)
    (document : Value) (maxRows : Int) :
    execute value document maxRows = plan.execute document maxRows := by
  rcases (Plan.load_eq_ok_iff value plan).1 loaded with ⟨read, _⟩
  have parsed : Plan.parse value = .ok plan := Outcome.mapError_eq_ok_iff.2 read
  rw [execute, parsed]

/-- Written plans can be joined as lists of written steps. -/
theorem Plan.load_written_append
    {recordPath : String} {firstSteps secondSteps : List Value} {first second : Plan}
    (firstLoads : Plan.load (Plan.written planVersion recordPath firstSteps) = .ok first)
    (secondLoads : Plan.load (Plan.written planVersion Pointer.root secondSteps) = .ok second) :
    Plan.load (Plan.written planVersion recordPath (firstSteps ++ secondSteps)) =
      .ok (first.followedBy second) := by
  rcases (Plan.load_eq_ok_iff _ _).1 firstLoads with ⟨firstRead, firstValid⟩
  rcases (Plan.load_eq_ok_iff _ _).1 secondLoads with ⟨secondRead, secondValid⟩
  rcases (Plan.read_written_eq_ok_iff _ _ _ _).1 firstRead with
    ⟨firstKnown, firstItems, firstItemsRead, rfl⟩
  rcases (Plan.read_written_eq_ok_iff _ _ _ _).1 secondRead with
    ⟨secondKnown, secondItems, secondItemsRead, rfl⟩
  refine (Plan.load_eq_ok_iff _ _).2 ⟨?_, firstValid.followedBy secondValid⟩
  refine (Plan.read_written_eq_ok_iff _ _ _ _).2
    ⟨?_, _, Shape.items_append_eq_valid firstItemsRead secondItemsRead, rfl⟩
  rw [Step.opProblems_eq_nil_iff] at firstKnown secondKnown ⊢
  exact List.forall_mem_append.2 ⟨firstKnown, secondKnown⟩

/-! ## Composition -/

/-- A joined run on any document, where the first run has a table, gives the rows of the second run on that
table and the warnings of both once each, unless the second run is stopped there, which stops the joined
one as well. Where the first run fails or is stopped, the joined run does the same. -/
structure Composes
    (runFirst runSecond runJoined : Value → Except StepError Execution) (stops : List Row → Prop) :
    Prop where
  completes : ∀ document table, runFirst document = .ok (.done table) → ¬ stops table.rows →
    ∃ rest,
      runSecond (.arr (table.rows.map .obj)) = .ok (.done rest) ∧
      runJoined document = .ok (.done ⟨rest.rows, (table.warnings ++ rest.warnings).eraseDups⟩)
  stops : ∀ document table, runFirst document = .ok (.done table) → stops table.rows →
    runSecond (.arr (table.rows.map .obj)) = .error (.text .tooManyDigits) ∧
      runJoined document = .error (.text .tooManyDigits)
  failed : ∀ document failure, runFirst document = .ok (.failed failure) →
    runJoined document = .ok (.failed failure)
  stopped : ∀ document error, runFirst document = .error error → runJoined document = .error error

theorem Plan.Valid.composes
    {first second : Plan} (firstValid : first.Valid) (secondValid : second.Valid)
    (fromRoot : second.recordPath = Pointer.root) :
    Composes (first.execute · 0) (second.execute · 0) ((first.followedBy second).execute · 0)
      second.Stops where
  completes := by
    intro document table done ends
    rcases firstValid.execute_followedBy secondValid fromRoot done with ⟨run, fails, ran, joined⟩
    rcases fails.succeeds_iff.2 ends with ⟨rest, rfl⟩
    exact ⟨rest, ran, joined⟩
  stops := by
    intro document table done stops
    rcases firstValid.execute_followedBy secondValid fromRoot done with ⟨run, fails, ran, joined⟩
    rw [fails.eq_error stops] at ran joined
    exact ⟨ran, joined⟩
  failed := by
    intro document failure failed
    have joinedValid := firstValid.followedBy secondValid
    cases extracted : Records.extract document first.recordPath with
    | error error =>
        rw [firstValid.execute_of_not_extract extracted] at failed
        cases failed
        exact joinedValid.execute_of_not_extract extracted
    | ok records =>
        rw [firstValid.execute_of_extract extracted] at failed
        rcases Outcome.map_eq_ok_iff.1 failed with ⟨_, _, impossible⟩
        cases impossible
  stopped := by
    intro document error stopped
    cases extracted : Records.extract document first.recordPath with
    | error error => cases (firstValid.execute_of_not_extract extracted).symm.trans stopped
    | ok records =>
        have joinedExtracted :
            Records.extract document (first.followedBy second).recordPath = .ok records := extracted
        rw [firstValid.execute_of_extract extracted, Outcome.map_eq_error_iff, Plan.runSteps_eq_map,
          Outcome.map_eq_error_iff] at stopped
        rw [(firstValid.followedBy secondValid).execute_of_extract joinedExtracted,
          Outcome.map_eq_error_iff, Plan.runSteps_eq_map, Outcome.map_eq_error_iff, Plan.followedBy,
          runFrom_append_eq_bind]
        exact Outcome.bind_eq_error_iff.2 (.inl stopped)

/--
Plans compose, as plans and as they are written: a joined plan is accepted when its parts are, and runs
as its parts do one after the other. It has a table where its first part does exactly if the second part
does not come to a text that is lacking on the rows of the first.
-/
theorem plans_compose (first second : Plan) :
    (first.validate = .ok first → second.validate = .ok second →
      second.recordPath = Pointer.root →
        (first.followedBy second).validate = .ok (first.followedBy second) ∧
        Composes (first.execute · 0) (second.execute · 0)
          ((first.followedBy second).execute · 0) second.Stops) ∧
    ∀ recordPath firstSteps secondSteps,
      Plan.load (Plan.written planVersion recordPath firstSteps) = .ok first →
      Plan.load (Plan.written planVersion Pointer.root secondSteps) = .ok second →
        Plan.load (Plan.written planVersion recordPath (firstSteps ++ secondSteps)) =
          .ok (first.followedBy second) ∧
        Composes (execute (Plan.written planVersion recordPath firstSteps) · 0)
          (execute (Plan.written planVersion Pointer.root secondSteps) · 0)
          (execute (Plan.written planVersion recordPath (firstSteps ++ secondSteps)) · 0)
          second.Stops := by
  constructor
  · intro firstAccepted secondAccepted fromRoot
    rcases (first.validate_eq_ok_iff first).1 firstAccepted with ⟨_, firstValid⟩
    rcases (second.validate_eq_ok_iff second).1 secondAccepted with ⟨_, secondValid⟩
    exact ⟨(Plan.validate_eq_ok_iff _ _).2 ⟨rfl, firstValid.followedBy secondValid⟩,
      firstValid.composes secondValid fromRoot⟩
  · intro recordPath firstSteps secondSteps firstLoads secondLoads
    have joinedLoads := Plan.load_written_append firstLoads secondLoads
    rcases (Plan.load_eq_ok_iff _ _).1 firstLoads with ⟨_, firstValid⟩
    rcases (Plan.load_eq_ok_iff _ _).1 secondLoads with ⟨secondRead, secondValid⟩
    rcases (Plan.read_written_eq_ok_iff _ _ _ _).1 secondRead with ⟨_, _, _, rfl⟩
    refine ⟨joinedLoads, ?_⟩
    simp only [execute_of_load firstLoads, execute_of_load secondLoads, execute_of_load joinedLoads]
    exact firstValid.composes secondValid rfl

/-- The counts of groups, and then the largest of them: both as written plans and on a document whose
records leave something to say. -/
theorem plans_compose_largest_group :
    Plan.load
        (Plan.written planVersion "/items" [
          .obj [("op", .str "groupBy"), ("keys", .arr [.str "kind"])],
          .obj [("op", .str "aggregate"),
            ("metrics", .arr [.obj [("as", .str "n"), ("fn", .str "count")]])],
          .obj [("op", .str "sort"), ("by", .str "n"), ("dir", .str "desc")],
          .obj [("op", .str "limit"), ("n", .ofInt 1)]]) =
      .ok ⟨planVersion, "/items",
        [.groupBy ["kind"], .aggregate [⟨"n", "count", none, none⟩], .sort "n" "desc",
          .limit (some 1)]⟩ ∧
    ∃ rest,
      Plan.execute ⟨planVersion, "/", [.sort "n" "desc", .limit (some 1)]⟩
          (.arr [.obj [("kind", .str "a"), ("n", .ofInt 1)],
            .obj [("kind", .str "b"), ("n", .ofInt 2)]]) 0 = .ok (.done rest) ∧
      Plan.execute ⟨planVersion, "/items",
          [.groupBy ["kind"], .aggregate [⟨"n", "count", none, none⟩], .sort "n" "desc",
            .limit (some 1)]⟩
          (.obj [("items", .arr [.obj [("kind", .str "a")], .obj [("kind", .str "b")],
            .obj [("kind", .str "b")], .null])]) 0 =
        .ok (.done ⟨rest.rows, (["1 null element(s) skipped"] ++ rest.warnings).eraseDups⟩) :=
  ⟨((plans_compose
      ⟨planVersion, "/items", [.groupBy ["kind"], .aggregate [⟨"n", "count", none, none⟩]]⟩
      ⟨planVersion, "/", [.sort "n" "desc", .limit (some 1)]⟩).2 "/items"
      [.obj [("op", .str "groupBy"), ("keys", .arr [.str "kind"])],
        .obj [("op", .str "aggregate"),
          ("metrics", .arr [.obj [("as", .str "n"), ("fn", .str "count")]])]]
      [.obj [("op", .str "sort"), ("by", .str "n"), ("dir", .str "desc")],
        .obj [("op", .str "limit"), ("n", .ofInt 1)]]
      (by rfl) (by rfl)).1,
    ((plans_compose
      ⟨planVersion, "/items", [.groupBy ["kind"], .aggregate [⟨"n", "count", none, none⟩]]⟩
      ⟨planVersion, "/", [.sort "n" "desc", .limit (some 1)]⟩).1 (by rfl) (by rfl) rfl).2.completes _
      ⟨[[("kind", .str "a"), ("n", .ofInt 1)], [("kind", .str "b"), ("n", .ofInt 2)]],
        ["1 null element(s) skipped"]⟩
      (by rfl)
      -- Sorting and counting off rows make no text.
      (by rintro (stops | ⟨_, stops | ⟨_, stops⟩⟩) <;> cases stops)⟩

/-- A first part that squares a number, and a second one that maps the square: where the square has too many
digits, the first part has a table, and both the second part on its rows and the joined plan are stopped. -/
theorem plans_compose_not_beyond_limit :
    let squares : List Value := [
      .obj [("op", .str "compute"),
        ("compute", .arr [.obj [("as", .str "b"), ("expr", .str "a*a")]])]]
    let maps : List Value := [
      .obj [("op", .str "mapValue"),
        ("map", .arr [.obj [("from", .str "b"), ("as", .str "c"), ("mapping", .obj []),
          ("default", .str "x")]])]]
    let document : Value := .arr [.obj [("a", .num (.int (10 ^ 3000 : Nat)))]]
    let row : Row :=
      [("a", .num (.int (10 ^ 3000 : Nat))), ("b", .num (.int (10 ^ 3000 * 10 ^ 3000 : Nat)))]
    Plan.load (Plan.written planVersion "/" squares) =
        .ok ⟨planVersion, "/", [.compute [⟨"b", "a*a"⟩]]⟩ ∧
      Plan.load (Plan.written planVersion "/" maps) =
        .ok ⟨planVersion, "/", [.mapValue [⟨"b", "c", [], some (.str "x")⟩]]⟩ ∧
      execute (Plan.written planVersion "/" squares) document 0 = .ok (.done ⟨[row], []⟩) ∧
      execute (Plan.written planVersion "/" (squares ++ maps)) document 0 =
        .error (.text .tooManyDigits) := by
  intro squares maps document row
  have firstLoads : Plan.load (Plan.written planVersion "/" squares) =
      .ok ⟨planVersion, "/", [.compute [⟨"b", "a*a"⟩]]⟩ := by rfl
  have secondLoads : Plan.load (Plan.written planVersion "/" maps) =
      .ok ⟨planVersion, "/", [.mapValue [⟨"b", "c", [], some (.str "x")⟩]]⟩ := by rfl
  have firstDone : Plan.execute ⟨planVersion, "/", [.compute [⟨"b", "a*a"⟩]]⟩ document 0 =
      .ok (.done ⟨[row], []⟩) := by
    subst document row
    rfl
  have found : Field.readOrNull row (Field.resolve "b" row) =
      .num (.int (10 ^ 3000 * 10 ^ 3000 : Nat)) := by
    subst row
    rfl
  have stops :
      Plan.Stops ⟨planVersion, "/", [.mapValue [⟨"b", "c", [], some (.str "x")⟩]]⟩ [row] := by
    refine .here ⟨row, List.mem_singleton.2 rfl, _, List.mem_singleton.2 rfl, ?_⟩
    change ¬ (Field.readOrNull row (Field.resolve "b" row)).Writable
    rw [found, Value.writable_num_iff]
    exact Decimal.not_writable_square (by decide)
  have composes :=
    ((Plan.load_eq_ok_iff _ _).1 firstLoads).2.composes ((Plan.load_eq_ok_iff _ _).1 secondLoads).2 rfl
  refine ⟨firstLoads, secondLoads, ?_, ?_⟩
  · rw [execute_of_load firstLoads, firstDone]
  · rw [execute_of_load (Plan.load_written_append firstLoads secondLoads)]
    exact (composes.stops document _ firstDone stops).2

end RowPlan
