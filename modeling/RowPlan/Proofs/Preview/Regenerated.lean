import RowPlan.Proofs.Plan.Serialization
import RowPlan.Proofs.Preview

/-!
# Previews of generated plans

Without an explicit plan and without a source, the plan of a preview is made from a template. Written
down and given explicitly, that plan leads to the same table. It is read back as it was, since none of
its steps holds anything that reading would change; it keeps the pointer that it was made for, whatever
is asked for besides; and under this pointer are the same records.
-/

namespace RowPlan

/-! ## Reading back -/

/-- The operations whose steps may be read back as something else. -/
def alteredOps : List String := ["filter", "mapValue"]

theorem Step.Valid.reread_eq
    {previous next : Option Step} {step : Step} (valid : step.Valid previous next)
    (kept : step.op ∉ alteredOps) :
    step.reread = step := by
  cases step with
  | filter condition => exact absurd List.mem_cons_self kept
  | mapValue specs => exact absurd (List.mem_cons_of_mem _ List.mem_cons_self) kept
  | sort by_ direction => rw [Step.reread, lower_direction valid.2]
  | aggregate metrics => rw [Step.reread, MetricSpec.map_reread_of_valid valid.2.1]
  | _ => rfl

theorem Plan.Valid.reread_eq
    {plan : Plan} (valid : plan.Valid) (kept : ∀ step ∈ plan.steps, step.op ∉ alteredOps) :
    plan.reread = plan := by
  have steps : plan.steps.map Step.reread = plan.steps := by
    refine (List.map_congr_left ?_).trans (List.map_id' _)
    intro step member
    rcases valid.steps.step member with ⟨_, _, stepValid⟩
    exact stepValid.reread_eq (kept step member)
  rw [Plan.reread, steps]

namespace Template

/-- Templates select, group and aggregate. -/
theorem plannedSteps_ops (tokens : List String) (fields : Row) (kind : Kind) :
    ∀ step ∈ plannedSteps tokens fields kind, step.op ∉ alteredOps := by
  cases kind with
  | grouped =>
      rw [plannedSteps]
      cases dimension? fields tokens <;> simp [Step.op, alteredOps]
  | mentioned => simp [plannedSteps, selectStep, Step.op, alteredOps]
  | everything =>
      rw [plannedSteps]
      split <;> simp [selectStep, Step.op, alteredOps]

theorem run_plan_reread
    (goal recordPath : String) {sample : Row} (wellFormed : sample.WellFormed) :
    (run goal recordPath sample).plan.reread = (run goal recordPath sample).plan := by
  refine (run_plan_valid goal recordPath wellFormed).reread_eq ?_
  rw [(run_planned goal recordPath sample).plan]
  exact plannedSteps_ops _ _ _

/-- Without fields to choose from nothing is preferred, whatever is mentioned. -/
theorem prefer?_nil (hints mentioned : List String) : prefer? hints mentioned [] = none := by
  have unknown : mentioned.find? (List.contains []) = none := List.find?_eq_none.2 (by simp)
  simp only [prefer?, unknown]
  rfl

end Template

namespace Proposal

/-- A written plan says where its records are. -/
theorem withDefaultPath_toValue
    {plan : Plan} (given : plan.recordPath ≠ "") (path : Option String) :
    withDefaultPath plan.toValue path = plan.toValue := by
  have saysWhere :
      hasRecordPath
        [("planVersion", .str plan.version), ("source", .obj [("recordPath", .str plan.recordPath)]),
          ("steps", .arr (plan.steps.map (·.toValue)))] = true := by
    change (!plan.recordPath.isEmpty) = true
    simpa using given
  cases path with
  | none => rfl
  | some path =>
      rw [Plan.toValue, withDefaultPath, saysWhere, Bool.or_true]
      rfl

theorem loadAny_toValue
    {plan : Plan} (valid : plan.Valid) (defaultPath : Option String) :
    loadAny plan.toValue defaultPath = .ok plan.reread := by
  change load plan.toValue defaultPath = .ok plan.reread
  rw [load, withDefaultPath_toValue valid.recordPath, valid.load_toValue]
  rfl

end Proposal

namespace Preview

/-! ## Both routes -/

/-- A written plan that is read back as it was brings its own pointer. -/
theorem settle_written
    {request : Request} {plan : Plan} (explicit : request.plan = some (.written plan.toValue))
    (valid : plan.Valid) (same : plan.reread = plan) (discovery : Discovery) :
    settle request discovery = .ok (.ok (some plan, plan.recordPath)) := by
  simp only [settle, explicit, Given.load, Proposal.loadAny_toValue valid, same]

theorem settle_without_plan
    {request : Request} {discovery : Discovery} (noPlan : request.plan = none)
    {explicit : Option Plan} {recordPath : String}
    (chose : settle request discovery = .ok (.ok (explicit, recordPath))) :
    explicit = none := by
  cases hinted : request.hint? with
  | some path =>
      simp only [settle, noPlan, hinted] at chose
      cases chose
      rfl
  | none =>
      simp only [settle, noPlan, hinted] at chose
      split at chose
      · cases chose
        rfl
      · cases chose

/-- Where there is neither an explicit plan nor a source, the plan is made from a template. -/
theorem choose_without_source
    {request : Request} (noSource : request.source = none) (discovery : Discovery)
    (recordPath : String) (records : Records) :
    choose request discovery none recordPath (Records.sample records.rows)
        (request.fallback recordPath records) =
      .ok (request.fallback recordPath records, []) := by
  simp only [choose, noSource]

/-- A preview of a goal alone comes from the plan of a template, and it is what the run of this plan
gives. -/
theorem build_from_goal
    {request : Request} (noPlan : request.plan = none) (noSource : request.source = none)
    (wellFormed : request.document.WellFormed) {settings : Settings} {success : Success}
    (built : build request (request.discovery settings) settings = .ok (.ok success)) :
    ∃ recordPath records table,
      Records.extract request.document recordPath = .ok records ∧
      success.chosen = request.fallback recordPath records ∧
      success.chosen.Runs request.document ∧
      success.chosen.plan.execute request.document settings.maxRows = .ok (.done table) ∧
      Csv.preview settings.previewRows table.rows = .ok success.csv ∧
      success = ⟨success.chosen, table.rows, success.csv, table.warnings⟩ := by
  rcases build_eq_ok_iff.1 built with
    ⟨explicit, recordPath, records, chose, extracted, proceeded⟩
  cases settle_without_plan noPlan chose
  have settled := settled_of_settle rfl chose
  have runs := Request.fallback_runs wellFormed settled.given extracted
  rw [proceed_of_runs (choose_without_source noSource _ recordPath records) runs,
    runs.concluded_eq_ok_iff] at proceeded
  rcases proceeded with ⟨table, csv, done, shown, same⟩
  cases same
  exact ⟨recordPath, records, table, extracted, rfl, runs, done, shown, rfl⟩

/--
The plan that is made for a goal, written down and given explicitly, leads to the preview that the goal
leads to: the same rows, schema, text and warnings.
-/
theorem run_regenerated
    {document : Value} (wellFormed : document.WellFormed) {goal hint : Option String}
    {settings : Settings} {preview : Preview} {success : Success}
    (ran : run ⟨document, goal, none, none, hint⟩ settings = .ok preview)
    (succeeded : preview.result = .ok success) :
    ∃ again repeated,
      run ⟨document, goal, some (.written success.chosen.plan.toValue), none, hint⟩ settings =
          .ok again ∧
      again.result = .ok repeated ∧
      repeated.rows = success.rows ∧ repeated.schema = success.schema ∧
      repeated.csv = success.csv ∧ repeated.warnings = success.warnings := by
  rcases Outcome.bind_eq_ok_iff.1 ran with ⟨result, built, made⟩
  cases made
  cases succeeded
  rcases build_from_goal rfl rfl wellFormed built with
    ⟨recordPath, records, table, extracted, chosen, runs, done, shown, whole⟩
  have sampleWellFormed : Row.WellFormed (Records.sample records.rows) :=
    Value.wellFormed_passesToRecords.of_sample wellFormed extracted
  have same : success.chosen.plan.reread = success.chosen.plan := by
    rw [chosen]
    exact Template.run_plan_reread _ recordPath sampleWellFormed
  have samePath : success.chosen.plan.recordPath = recordPath := by
    rw [← runs.recordPath, chosen]
    rfl
  let request : Request :=
    ⟨document, goal, some (.written success.chosen.plan.toValue), none, hint⟩
  let explicit : Chosen := ⟨success.chosen.plan, .explicit, recordPath⟩
  have chose :
      settle request (request.discovery settings) =
        .ok (.ok (some success.chosen.plan, recordPath)) := by
    rw [settle_written rfl runs.valid same, samePath]
  have explicitRuns : explicit.Runs document := ⟨runs.valid, samePath.symm, runs.records⟩
  have rebuilt :
      build request (request.discovery settings) settings =
        .ok (.ok ⟨explicit, table.rows, success.csv, table.warnings⟩) := by
    rw [build_eq_proceed chose extracted, proceed_of_runs rfl explicitRuns]
    exact explicitRuns.concluded_eq_ok_iff.2 ⟨table, success.csv, done, shown, rfl⟩
  rw [whole]
  exact ⟨_, _, Outcome.bind_eq_ok_iff.2 ⟨_, rebuilt, rfl⟩, rfl, rfl, rfl, rfl, rfl⟩

/-- The records of the second preview are found through the plan, those of the first through a hint. -/
theorem run_regenerated_counted_items :
    let document : Value := .obj [("items", .arr [.obj [("k", .str "a")], .obj [("k", .str "a")]])]
    document.WellFormed ∧
      ∃ preview success again repeated,
        run ⟨document, some "count by k", none, none, some "/items"⟩ Settings.default =
          .ok preview ∧
        preview.result = .ok success ∧
        run
            ⟨document, some "count by k", some (.written success.chosen.plan.toValue), none,
              some "/items"⟩
            Settings.default =
          .ok again ∧
        again.result = .ok repeated ∧ repeated.rows = success.rows := by
  intro document
  have wellFormed : document.WellFormed := by simp [document]
  let request : Request := ⟨document, some "count by k", none, none, some "/items"⟩
  let records : Records := ⟨[[("k", .str "a")], [("k", .str "a")]], []⟩
  let fields : Row := [("k", .str "a")]
  have kind : (Template.run "count by k" "/items" fields).kind = .grouped := by decide +kernel
  have wish :
      Template.Wish.ofTokens (Goal.tokens "count by k") =
        ⟨false, false, true, false, false, false⟩ := by
    decide +kernel
  have dimension :
      Template.dimension? (Template.namedFields fields) (Goal.tokens "count by k") = some "k" := by
    decide +kernel
  have measure :
      Template.measure? (Template.namedFields fields) (Goal.tokens "count by k") (some "k") =
        none :=
    Template.prefer?_nil _ _
  have planned :
      (request.fallback "/items" records).plan =
        ⟨planVersion, "/items", [.groupBy ["/k"], .aggregate [⟨"count", "count", none, none⟩]]⟩ := by
    have goal : request.goal.getD "" = "count by k" := rfl
    have sample : Records.sample records.rows = fields := rfl
    rw [Request.fallback, goal, sample, fromTemplate]
    dsimp only
    rw [(Template.run_planned "count by k" "/items" fields).plan, kind, Template.plannedSteps, wish,
      dimension, measure]
    rfl
  have runs : (request.fallback "/items" records).Runs document :=
    Request.fallback_runs wellFormed (by decide) rfl
  have done :
      (request.fallback "/items" records).plan.execute document Settings.default.maxRows =
        .ok (.done ⟨[[("k", .str "a"), ("count", .ofNat 2)]], []⟩) := by
    rw [planned]
    subst request records document
    rfl
  have shown :
      Csv.preview Settings.default.previewRows [[("k", .str "a"), ("count", .ofNat 2)]] =
        .ok "k,count\r\na,2\r\n" := by rfl
  have built :
      build request (request.discovery Settings.default) Settings.default = .ok (.ok _) :=
    build_eq_ok_iff.2 ⟨none, "/items", records, rfl, rfl, by
      rw [proceed_of_runs (choose_without_source rfl _ _ _) runs]
      exact runs.concluded_eq_ok_iff.2 ⟨_, _, done, shown, rfl⟩⟩
  have ran :
      run request Settings.default = .ok ⟨request.discovery Settings.default, .ok _⟩ :=
    Outcome.bind_eq_ok_iff.2 ⟨_, built, rfl⟩
  rcases run_regenerated wellFormed ran rfl with ⟨again, repeated, ranAgain, result, rows, _⟩
  exact ⟨wellFormed, _, _, again, repeated, ran, rfl, ranAgain, result, rows⟩

end Preview

end RowPlan
