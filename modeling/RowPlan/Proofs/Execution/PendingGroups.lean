import RowPlan.Proofs.Execution.Composition
import RowPlan.Proofs.Execution.Grouping

/-!
# Groups that wait for their aggregation

A grouping leaves its groups in the state of the run, and the next aggregation takes them, whatever
comes between. What keeps groups from going stale are two plan rules: a grouping is followed by an
aggregation, and nothing else makes groups.

So the groups in a state can be read off the step before. After a grouping they are the groups of the
rows at hand, and otherwise there are none.
-/

namespace RowPlan

open StepResult

/-- The groups that a step leaves behind with some rows: a grouping those of the rows, and no other
step any. -/
def Step.leftGroups (rows : List Row) : Step → Option (List Group)
  | .groupBy keys => some (groupRows (keyColumns keys (Records.sample rows)) rows)
  | _ => none

theorem Step.leftGroups_isSome_iff (rows : List Row) (step : Step) :
    (step.leftGroups rows).isSome ↔ ∃ keys, step = .groupBy keys := by
  cases step <;> simp [leftGroups]

/-- Where groups wait only for an aggregation, a step leaves its own groups and no older ones. -/
theorem Step.groups_after_run
    {step : Step} {rest : List Step} {state reached : State} {notes : List Field.Note}
    (waits : state.Waits (step :: rest)) (ran : step.run state = .ok (reached, notes)) :
    reached.groups = step.leftGroups reached.rows := by
  cases step with
  | groupBy keys =>
      cases ran
      rfl
  | aggregate metrics =>
      rcases Outcome.bind_eq_ok_iff.1 ran with ⟨rows, _, result⟩
      cases result
      rfl
  | _ =>
      -- No other step touches the groups, and it would not stand here if there were any.
      rcases Step.run_groups ran with grouping | ⟨aggregation, _⟩ | kept
      · exact absurd grouping (by simp [Step.op])
      · exact absurd aggregation (by simp [Step.op])
      · by_contra left
        exact absurd (waits (kept ▸ left)) (by simp [Step.op])

/-! ## Runs -/

/-- All along a run of valid steps groups wait only for an aggregation. -/
theorem StepsValid.waits_after
    {previous : Option Step} {first second : List Step}
    (valid : StepsValid previous (first ++ second)) {state reached : State}
    {notes : List Field.Note} (waits : state.Waits (first ++ second))
    (ran : runFrom state first = .ok (reached, notes)) :
    reached.Waits second := by
  induction first generalizing previous state notes with
  | nil =>
      cases ran
      exact waits
  | cons step rest later =>
      rcases runFrom_cons_eq_ok_iff.1 ran with ⟨next, _, _, stepRan, restRan, rfl⟩
      exact later valid.2 (valid.1.waits waits stepRan) restRan

/-- A state that a run on some rows is in before its `i`th step. -/
def Plan.StateBefore (plan : Plan) (rows : List Row) (i : Nat) (state : State) : Prop :=
  ∃ notes, runFrom ⟨rows, none⟩ (plan.steps.take i) = .ok (state, notes)

/-- The step that comes before the `i`th one. -/
def Plan.stepBefore (plan : Plan) : Nat → Option Step
  | 0 => none
  | i + 1 => plan.steps[i]?

theorem Plan.Valid.waits_before
    {plan : Plan} (valid : plan.Valid) {rows : List Row} {i : Nat} {state : State}
    (reached : plan.StateBefore rows i state) :
    state.Waits (plan.steps.drop i) := by
  rcases reached with ⟨notes, ran⟩
  have whole : StepsValid none (plan.steps.take i ++ plan.steps.drop i) := by
    rw [List.take_append_drop]
    exact valid.steps
  exact whole.waits_after (fun left => absurd rfl left) ran

theorem Plan.stateBefore_succ_iff
    {plan : Plan} {rows : List Row} {i : Nat} {step : Step} (atI : plan.steps[i]? = some step)
    {state : State} :
    plan.StateBefore rows (i + 1) state ↔
      ∃ earlier notes, plan.StateBefore rows i earlier ∧ step.run earlier = .ok (state, notes) := by
  have grown : plan.steps.take (i + 1) = plan.steps.take i ++ [step] := by
    rw [List.take_add_one, atI, Option.toList_some]
  rw [StateBefore, grown]
  constructor
  · rintro ⟨notes, ran⟩
    rcases runFrom_append_eq_ok_iff.1 ran with ⟨earlier, firstNotes, _, firstRan, lastRan, _⟩
    rcases runFrom_cons_eq_ok_iff.1 lastRan with ⟨next, stepNotes, _, stepRan, done, _⟩
    cases done
    exact ⟨earlier, stepNotes, ⟨firstNotes, firstRan⟩, stepRan⟩
  · rintro ⟨earlier, stepNotes, ⟨firstNotes, firstRan⟩, stepRan⟩
    have lastRan : runFrom earlier [step] = .ok (state, stepNotes ++ []) :=
      runFrom_cons_eq_ok_iff.2 ⟨state, stepNotes, [], stepRan, rfl, rfl⟩
    exact ⟨_, runFrom_append_eq_ok_iff.2
      ⟨earlier, firstNotes, stepNotes ++ [], firstRan, lastRan, rfl⟩⟩

/-- Before each step of an accepted plan the groups are those that the step before has left. -/
theorem Plan.Valid.groups_before
    {plan : Plan} (valid : plan.Valid) {rows : List Row} {i : Nat} {state : State}
    (reached : plan.StateBefore rows i state) :
    state.groups = (plan.stepBefore i).bind (Step.leftGroups state.rows) := by
  cases i with
  | zero =>
      rcases reached with ⟨notes, ran⟩
      cases ran
      rfl
  | succ i =>
      rw [stepBefore]
      cases atI : plan.steps[i]? with
      | some step =>
          rcases (stateBefore_succ_iff atI).1 reached with ⟨earlier, notes, before, ran⟩
          have waits := valid.waits_before before
          rw [List.drop_eq_getElem?_toList_append, atI] at waits
          exact Step.groups_after_run waits ran
      | none =>
          -- The run is over, and whatever waits would wait for a step.
          have ended : plan.steps.drop (i + 1) = [] := by
            rw [List.drop_eq_nil_iff]
            exact Nat.le_succ_of_le (List.getElem?_eq_none_iff.1 atI)
          have waits := valid.waits_before reached
          rw [ended] at waits
          by_contra left
          exact absurd (waits left) (by simp)

/-- A run that does not come to a text that is lacking gets to every step. -/
theorem Plan.Valid.stateBefore_exists
    {plan : Plan} (valid : plan.Valid) {rows : List Row} (ends : ¬ plan.Stops rows) (i : Nat) :
    ∃ state, plan.StateBefore rows i state := by
  rcases (runFrom_fails valid.steps ⟨rows, none⟩).succeeds_iff.2 ends with ⟨⟨final, notes⟩, ran⟩
  rw [← List.take_append_drop i plan.steps] at ran
  rcases runFrom_append_eq_ok_iff.1 ran with ⟨state, firstNotes, _, firstRan, _, _⟩
  exact ⟨state, firstNotes, firstRan⟩

/-- An aggregation that finds no groups gives one row for all rows. -/
theorem StepResult.run_aggregate_all
    {metrics : List MetricSpec} (valid : ∀ metric ∈ metrics, metric.Valid) {state : State}
    (ungrouped : state.groups = none) :
    ∃ row notes,
      groupRow metrics (Records.sample state.rows) ⟨[], state.rows⟩ = .ok row ∧
      (Step.aggregate metrics).run state = .ok (⟨[row], none⟩, notes) := by
  rcases groupRow_succeeds valid (Records.sample state.rows) ⟨[], state.rows⟩ with ⟨row, computed⟩
  have all :
      List.Forall₂
        (fun group row => groupRow metrics (Records.sample state.rows) group = .ok row)
        (state.groups.getD [⟨[], state.rows⟩]) [row] := by
    rw [ungrouped]
    exact .cons computed .nil
  rcases run_aggregate state all with ⟨notes, ran⟩
  exact ⟨row, notes, computed, ran⟩

/-- How a state stands before the `i`th step of a plan: groups are set exactly after a grouping, and
then for the rows at hand; only an aggregation runs on them, and one without them is over all rows. -/
structure Plan.HandsOnGroups (plan : Plan) (i : Nat) (state : State) : Prop where
  set : state.groups.isSome ↔ ∃ keys, plan.stepBefore i = some (.groupBy keys)
  current : ∀ keys, plan.stepBefore i = some (.groupBy keys) →
    state.groups = some (groupRows (keyColumns keys (Records.sample state.rows)) state.rows)
  taken : ∀ step, plan.steps[i]? = some step → state.groups.isSome →
    ∃ metrics, step = .aggregate metrics
  ungrouped : ∀ metrics, plan.steps[i]? = some (.aggregate metrics) →
    (¬ ∃ keys, plan.stepBefore i = some (.groupBy keys)) →
    ∃ row notes,
      groupRow metrics (Records.sample state.rows) ⟨[], state.rows⟩ = .ok row ∧
      (Step.aggregate metrics).run state = .ok (⟨[row], none⟩, notes)

theorem Plan.Valid.handsOnGroups
    {plan : Plan} (valid : plan.Valid) {rows : List Row} {i : Nat} {state : State}
    (reached : plan.StateBefore rows i state) :
    plan.HandsOnGroups i state := by
  have groups := valid.groups_before reached
  have set : state.groups.isSome ↔ ∃ keys, plan.stepBefore i = some (.groupBy keys) := by
    rw [groups]
    cases plan.stepBefore i with
    | none => simp
    | some step => simpa using step.leftGroups_isSome_iff state.rows
  constructor
  case set => exact set
  case current =>
    intro keys grouping
    rw [groups, grouping]
    rfl
  case taken =>
    intro step atI waiting
    have waits := valid.waits_before reached (Option.isSome_iff_ne_none.1 waiting)
    rw [List.head?_drop, atI] at waits
    cases step with
    | aggregate metrics => exact ⟨metrics, rfl⟩
    | _ => exact absurd waits (by simp [Step.op])
  case ungrouped =>
    intro metrics atI notGrouped
    rcases valid.steps.step (List.mem_of_getElem? atI) with ⟨_, _, _, metricsValid, _⟩
    refine run_aggregate_all metricsValid ?_
    rwa [← set, Option.not_isSome_iff_eq_none] at notGrouped

/--
All along a run of an accepted plan groups are set exactly right after a grouping. Only aggregations run
while they are, every other aggregation is over all rows, and at the end of the run there are none. The run
gets to every step and to the end, unless it comes to a text that is lacking.
-/
theorem Plan.groups_set_iff_after_groupBy
    (plan : Plan) (accepted : plan.check = .ok []) (rows : List Row) :
    (∀ i state, plan.StateBefore rows i state → plan.HandsOnGroups i state) ∧
    (∀ final notes, runFrom ⟨rows, none⟩ plan.steps = .ok (final, notes) → final.groups = none) ∧
    (¬ plan.Stops rows → ∀ i, ∃ state, plan.StateBefore rows i state) ∧
    Outcome.FailsFor (runFrom ⟨rows, none⟩ plan.steps) (.text .tooManyDigits) (plan.Stops rows) := by
  have valid : plan.Valid := plan.check_eq_nil_iff.1 accepted
  refine ⟨fun _ _ => valid.handsOnGroups, fun final notes ran => ?_, valid.stateBefore_exists,
    runFrom_fails valid.steps _⟩
  exact valid.steps.groups_eq_none (fun left => absurd rfl left) ran

/-- A grouping and its aggregation, and another aggregation over the rows of the groups. -/
theorem Plan.groups_set_counts_of_counts :
    Plan.check ⟨"1.0", "/", [.groupBy ["k"], .aggregate [⟨"n", "count", none, none⟩],
      .aggregate [⟨"groups", "count", none, none⟩]]⟩ = .ok [] ∧
    ∃ state,
      Plan.StateBefore ⟨"1.0", "/", [.groupBy ["k"], .aggregate [⟨"n", "count", none, none⟩],
        .aggregate [⟨"groups", "count", none, none⟩]]⟩
        [[("k", .ofNat 1)], [("k", .ofNat 2)], [("k", .ofNat 1)]] 2 state ∧
      state.rows = [[("k", .ofNat 1), ("n", .ofNat 2)], [("k", .ofNat 2), ("n", .ofNat 1)]] ∧
      state.groups = none ∧
      ∃ notes,
        (Step.aggregate [⟨"groups", "count", none, none⟩]).run state =
          .ok (⟨[[("groups", .ofNat 2)]], none⟩, notes) := by
  have accepted :
      Plan.check ⟨"1.0", "/", [.groupBy ["k"], .aggregate [⟨"n", "count", none, none⟩],
        .aggregate [⟨"groups", "count", none, none⟩]]⟩ = .ok [] := by rfl
  rcases Plan.groups_set_iff_after_groupBy _ accepted
    [[("k", .ofNat 1)], [("k", .ofNat 2)], [("k", .ofNat 1)]] with ⟨handsOn, _, reaches, _⟩
  -- Grouping and counting make no text.
  rcases reaches (by rintro (stops | ⟨_, stops | ⟨_, stops | ⟨_, ⟨⟩⟩⟩⟩) <;> cases stops) 2 with
    ⟨state, reached⟩
  rcases (handsOn 2 state reached).ungrouped _ rfl (by simp [Plan.stepBefore]) with
    ⟨row, notes, computed, ran⟩
  have before := reached
  rcases reached with ⟨_, happened⟩
  cases happened
  cases computed
  exact ⟨accepted, _, before, rfl, rfl, notes, ran⟩

end RowPlan
