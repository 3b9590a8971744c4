import RowPlan.Plan.Check
import RowPlan.Proofs.Outcome

/-!
# Valid plans

The plan rules as predicates, without the places and the wording of a report. A part is valid when
the check of that part has nothing to report, whatever the place: one lemma for each check says so,
and together they show that a plan is accepted exactly when it is valid.

Validity is what every statement about running plans starts from. What a step asks of its neighbours
is kept apart from what it asks of itself, so that lists of steps can be joined.
-/

namespace RowPlan

/-- An expression text that may stand in a plan: it says something and parses. -/
def ValidText (text : String) : Prop :=
  Text.isBlankText text = false ∧ ∃ expr, Expr.parse text = .ok expr

/-- An operand is valid unless it is a field reference that names nothing. -/
def ValidOperand (operand : Value) : Prop :=
  ∀ members value, operand = .obj members → members.lookup "field" = some value →
    value.isGiven = true

/-- The names of the tests. -/
def Condition.Test.names : List String := all.map name

/-- Condition trees in which every node that is evaluated has the parts that its operator needs. The
items of a test play no role. -/
inductive Condition.Valid : Condition → Prop where
  | negation {left right item} :
      Valid item → Valid (.node "not" left right (some [item]))
  | joined {op left right items} :
      op = "and" ∨ op = "or" → items ≠ [] → (∀ item ∈ items, Valid item) →
      Valid (.node op left right (some items))
  | test {op left right items} :
      op ∈ Test.names →
      (op = "in" → ∃ values, right = .arr values) →
      ValidOperand left → ValidOperand right →
      Valid (.node op (some left) (some right) items)

/-- What a filter keeps is said by a valid expression text or a valid condition tree. -/
def Filter.Valid : Filter → Prop
  | .expr text => ValidText text
  | .tree condition => condition.Valid

/-- A metric has a name, a known function, and something to compute it from unless it counts. -/
structure MetricSpec.Valid (metric : MetricSpec) : Prop where
  target : metric.target ≠ ""
  function : metric.function ∈ aggregateFunctions
  source : metric.function = "count" ∨ (∃ field, metric.field = some field ∧ field ≠ "") ∨
    ∃ text, metric.expr = some text ∧ text ≠ ""
  expr : ∀ text, metric.expr = some text → ValidText text

/-- A step between its neighbours obeys the rules of its operation. -/
def Step.Valid (previous next : Option Step) : Step → Prop
  | .select fields =>
      fields ≠ [] ∧ (∀ spec ∈ fields, spec.source ≠ "" ∧ spec.target ≠ "") ∧
        (fields.map (·.target)).Nodup
  | .filter condition => ∃ filter, condition = some filter ∧ filter.Valid
  | .compute specs =>
      specs ≠ [] ∧ (∀ spec ∈ specs, spec.target ≠ "" ∧ ValidText spec.expr) ∧
        (specs.map (·.target)).Nodup
  | .mapValue specs =>
      specs ≠ [] ∧ (∀ spec ∈ specs, spec.source ≠ "" ∧ spec.target ≠ "") ∧
        (specs.map (·.target)).Nodup
  | .sort by_ direction => by_ ≠ "" ∧ (direction = "asc" ∨ direction = "desc")
  | .groupBy keys =>
      keys ≠ [] ∧ (∀ key ∈ keys, key ≠ "") ∧ next.map Step.op = some "aggregate"
  | .aggregate metrics =>
      (metrics ≠ [] ∨ previous.map Step.op = some "groupBy") ∧
        (∀ metric ∈ metrics, metric.Valid) ∧ (metrics.map (·.target)).Nodup
  | .limit count => ∃ n, count = some n ∧ 0 < n

/-- Steps that follow a given step are valid, each between its neighbours. -/
def StepsValid (previous : Option Step) : List Step → Prop
  | [] => True
  | step :: rest => step.Valid previous rest.head? ∧ StepsValid (some step) rest

/-- Of the steps around it, a valid step asks for their operations only. -/
theorem Step.Valid.of_neighbours
    {previous next before after : Option Step} {step : Step} (valid : step.Valid previous next)
    (sameBefore : before.map Step.op = previous.map Step.op)
    (sameAfter : after.map Step.op = next.map Step.op) :
    step.Valid before after := by
  cases step with
  | groupBy keys => exact ⟨valid.1, valid.2.1, sameAfter.trans valid.2.2⟩
  | aggregate metrics => exact ⟨valid.1.imp id sameBefore.trans, valid.2⟩
  | _ => exact valid

/-- Steps stay valid when each is replaced by a valid one of the same operation. -/
theorem StepsValid.map
    {f : Step → Step} (sameOp : ∀ step, (f step).op = step.op)
    (each : ∀ {previous next step}, Step.Valid previous next step → (f step).Valid previous next)
    {previous : Option Step} {steps : List Step} (valid : StepsValid previous steps) :
    StepsValid (previous.map f) (steps.map f) := by
  have sameOps (neighbour : Option Step) :
      (neighbour.map f).map Step.op = neighbour.map Step.op := by
    simp [Function.comp_def, sameOp]
  induction steps generalizing previous with
  | nil => trivial
  | cons step rest later =>
      refine ⟨?_, later valid.2⟩
      rw [List.head?_map]
      exact (each valid.1).of_neighbours (sameOps previous) (sameOps rest.head?)

/-- A plan is valid when its version, its pointer and its steps are. -/
structure Plan.Valid (plan : Plan) : Prop where
  version : plan.version = planVersion
  recordPath : plan.recordPath ≠ ""
  steps : StepsValid none plan.steps

namespace Check

/-! ## Single rules -/

@[simp]
theorem ensure_eq_nil_iff (holds : Bool) (place : String) (violation : Violation) :
    ensure holds place violation = [] ↔ holds = true := by
  rw [ensure]
  split <;> simp_all

/-- Two checks whose violations are joined are free of violations exactly when both are. -/
theorem join_eq_nil_iff {first second : Check} :
    (first >>= fun problems => second >>= fun more => (.ok (problems ++ more) : Check)) = .ok [] ↔
      first = .ok [] ∧ second = .ok [] := by
  constructor
  · intro accepted
    rcases Outcome.bind_eq_ok_iff.1 accepted with ⟨problems, firstChecked, accepted⟩
    rcases Outcome.bind_eq_ok_iff.1 accepted with ⟨more, secondChecked, result⟩
    rcases List.append_eq_nil_iff.1 (Except.ok.inj result) with ⟨rfl, rfl⟩
    exact ⟨firstChecked, secondChecked⟩
  · rintro ⟨firstChecked, secondChecked⟩
    rw [firstChecked, secondChecked]
    rfl

/-- A list of checked items is free of violations exactly when every item is. -/
theorem each_eq_nil_iff {α : Type}
    {check : String → α → Check} {valid : α → Prop}
    (checked : ∀ place item, check place item = .ok [] ↔ valid item)
    (place : String) (index : Nat) (items : List α) :
    each place check index items = .ok [] ↔ ∀ item ∈ items, valid item := by
  induction items generalizing index with
  | nil => simp [each]
  | cons item rest others =>
      rw [List.forall_mem_cons, ← checked (itemPlace place index) item, ← others (index + 1), each]
      exact join_eq_nil_iff

theorem expression_eq_nil_iff (place text : String) :
    expression place text = .ok [] ↔ ValidText text := by
  rw [expression, ValidText]
  cases blank : Text.isBlankText text with
  | true => simp
  | false =>
      cases Expr.parse text with
      | ok expr => simp
      | error error => cases error <;> simp

theorem repeated_eq_nil_iff (seen names : List String) :
    repeated seen names = [] ↔ names.Nodup ∧ ∀ name ∈ names, name ∉ seen := by
  induction names generalizing seen with
  | nil => simp [repeated]
  | cons name rest others =>
      rw [repeated, List.append_eq_nil_iff, others, List.nodup_cons, List.forall_mem_cons]
      constructor
      · rintro ⟨fresh, distinct, unseen⟩
        have nameUnseen : name ∉ seen := by
          intro member
          simp [member] at fresh
        refine ⟨⟨?_, distinct⟩, nameUnseen, ?_⟩
        · intro member
          exact unseen name member List.mem_cons_self
        · intro other member seenBefore
          exact unseen other member (List.mem_cons_of_mem name seenBefore)
      · rintro ⟨⟨fresh, distinct⟩, nameUnseen, unseen⟩
        refine ⟨by simp [nameUnseen], distinct, ?_⟩
        intro other member seenBefore
        rcases List.mem_cons.1 seenBefore with rfl | seenBefore
        · exact fresh member
        · exact unseen other member seenBefore

theorem uniqueTargets_eq_nil_iff (place : String) (names : List String) :
    uniqueTargets place names = [] ↔ names.Nodup := by
  simp [uniqueTargets, repeated_eq_nil_iff]

/-! ## Conditions -/

theorem operand_eq_nil_iff (place side : String) (written : Value) :
    operand place side (some written) = [] ↔ ValidOperand written := by
  unfold operand ValidOperand
  constructor
  · rintro accepted members value rfl found
    simpa [found] using accepted
  · intro valid
    split
    · rename_i members shape
      cases shape
      cases found : members.lookup "field" with
      | none => rfl
      | some value => simpa using valid members value rfl found
    · rfl

theorem test_eq_nil_iff (place op : String) (left right : Option Value) :
    test place op left right = [] ↔
      ∃ leftValue rightValue, left = some leftValue ∧ right = some rightValue ∧
        (op = "in" → ∃ values, rightValue = .arr values) ∧
        ValidOperand leftValue ∧ ValidOperand rightValue := by
  unfold test
  simp only [List.append_eq_nil_iff, ensure_eq_nil_iff]
  cases left with
  | none => simp
  | some leftValue =>
      cases right with
      | none => simp
      | some rightValue =>
          rw [operand_eq_nil_iff, operand_eq_nil_iff]
          cases rightValue <;> simp [and_assoc]

mutual

/-- A condition that the check has nothing to say about is valid. -/
theorem valid_of_condition_eq_nil (place : String) :
    (tree : Condition) → condition place tree = [] → tree.Valid
  | .node op left right items, accepted => by
      rw [condition] at accepted
      split at accepted
      · rename_i negation
        rcases List.append_eq_nil_iff.1 accepted with ⟨one, accepted⟩
        cases items with
        | none => simp at one
        | some items =>
            obtain ⟨item, rfl⟩ : ∃ item, items = [item] := by
              simpa [List.length_eq_one_iff] using one
            subst negation
            exact .negation (valid_of_parts_eq_nil _ _ [item] accepted item (by simp))
      · split at accepted
        · rename_i joins
          rcases List.append_eq_nil_iff.1 accepted with ⟨given, accepted⟩
          cases items with
          | none => simp at given
          | some items =>
              have nonempty : items ≠ [] := by simpa using given
              exact .joined (by simpa using joins) nonempty
                (valid_of_parts_eq_nil _ _ items accepted)
        · split at accepted
          · rename_i known
            rcases (test_eq_nil_iff _ _ _ _).1 accepted with
              ⟨leftValue, rightValue, rfl, rfl, array, leftValid, rightValid⟩
            exact .test (by simpa [Condition.Test.names] using known) array leftValid rightValid
          · cases accepted

theorem valid_of_parts_eq_nil (place : String) (index : Nat) :
    (items : List Condition) → parts place index items = [] → ∀ item ∈ items, item.Valid
  | [], _ => nofun
  | first :: rest, accepted => by
      rw [parts] at accepted
      rcases List.append_eq_nil_iff.1 accepted with ⟨firstAccepted, restAccepted⟩
      exact List.forall_mem_cons.2
        ⟨valid_of_condition_eq_nil _ first firstAccepted,
          valid_of_parts_eq_nil place (index + 1) rest restAccepted⟩

end

theorem parts_eq_nil
    (place : String) (index : Nat) (items : List Condition)
    (each : ∀ item ∈ items, ∀ place, condition place item = []) :
    parts place index items = [] := by
  induction items generalizing index with
  | nil => rfl
  | cons first rest others =>
      rcases List.forall_mem_cons.1 each with ⟨firstAccepted, restAccepted⟩
      rw [parts, firstAccepted, others (index + 1) restAccepted]
      rfl

theorem condition_eq_nil_of_valid
    {tree : Condition} (valid : tree.Valid) (place : String) :
    condition place tree = [] := by
  induction valid generalizing place with
  | negation _ inner =>
      simp [condition, optionalParts, parts, inner]
  | joined joins nonempty _ inner =>
      rcases joins with rfl | rfl <;>
        simp [condition, optionalParts, nonempty, parts_eq_nil _ _ _ inner]
  | @test op left right items known array leftValid rightValid =>
      have accepted : test place op (some left) (some right) = [] :=
        (test_eq_nil_iff _ _ _ _).2 ⟨left, right, rfl, rfl, array, leftValid, rightValid⟩
      have notNot : op ≠ "not" := by
        rintro rfl
        revert known
        decide
      have notJoin : ¬ (op = "and" ∨ op = "or") := by
        rintro (rfl | rfl) <;> revert known <;> decide
      have listed : (Condition.Test.all.map Condition.Test.name).contains op = true := by
        simpa [Condition.Test.names] using known
      rw [condition, if_neg notNot, if_neg (by simpa using notJoin), if_pos listed]
      exact accepted

theorem condition_eq_nil_iff (place : String) (tree : Condition) :
    condition place tree = [] ↔ tree.Valid :=
  ⟨valid_of_condition_eq_nil place tree, fun valid => condition_eq_nil_of_valid valid place⟩

/-! ## Steps -/

theorem filter_eq_nil_iff (place : String) (condition : Option Filter) :
    filter place condition = .ok [] ↔ ∃ kept, condition = some kept ∧ kept.Valid := by
  cases condition with
  | none => simp [filter]
  | some kept =>
      cases kept with
      | expr text => simp [filter, Filter.Valid, expression_eq_nil_iff]
      | tree tree => simp [filter, Filter.Valid, condition_eq_nil_iff]

@[simp]
theorem not_isEmpty_iff (text : String) : (!text.isEmpty) = true ↔ text ≠ "" := by
  simp

/-- Two checks in a row are free of violations exactly when both are. -/
theorem bind_append_eq_nil_iff
    {first : Check} {before after : List RuleProblem} :
    (first >>= fun problems => (.ok (before ++ problems ++ after) : Check)) = .ok [] ↔
      before = [] ∧ first = .ok [] ∧ after = [] := by
  rw [Outcome.bind_eq_ok_iff]
  constructor
  · rintro ⟨problems, checked, result⟩
    rcases List.append_eq_nil_iff.1 (Except.ok.inj result) with ⟨front, rfl⟩
    rcases List.append_eq_nil_iff.1 front with ⟨rfl, rfl⟩
    exact ⟨rfl, checked, rfl⟩
  · rintro ⟨rfl, checked, rfl⟩
    exact ⟨[], checked, rfl⟩

theorem computeSpec_eq_nil_iff (place : String) (spec : ComputeSpec) :
    computeSpec place spec = .ok [] ↔ spec.target ≠ "" ∧ ValidText spec.expr := by
  have shape :
      computeSpec place spec =
        (expression place spec.expr >>= fun problems =>
          .ok (ensure (!spec.target.isEmpty) place .requiresTarget ++ problems ++ [])) := by
    simp only [computeSpec, List.append_nil]
  rw [shape, bind_append_eq_nil_iff, ensure_eq_nil_iff, not_isEmpty_iff, expression_eq_nil_iff]
  simp

theorem isPresent_iff (text : Option String) :
    isPresent text = true ↔ ∃ given, text = some given ∧ given ≠ "" := by
  cases text <;> simp [isPresent]

/-- The rule on the function of a metric and on what it is computed from. -/
theorem metricFunction_eq_nil_iff (place : String) (spec : MetricSpec) :
    (if !aggregateFunctions.contains spec.function then
        [(⟨place, .unknownFunction spec.function⟩ : RuleProblem)]
      else
        ensure (spec.function == "count" || isPresent spec.field || isPresent spec.expr) place
          (.requires spec.function "'field' or 'expr'")) = [] ↔
      spec.function ∈ aggregateFunctions ∧
        (spec.function = "count" ∨ (∃ field, spec.field = some field ∧ field ≠ "") ∨
          ∃ text, spec.expr = some text ∧ text ≠ "") := by
  by_cases known : spec.function ∈ aggregateFunctions
  · rw [if_neg (by simpa using known), ensure_eq_nil_iff]
    simp only [Bool.or_eq_true, beq_iff_eq, isPresent_iff, or_assoc, known, true_and]
  · rw [if_pos (by simpa using known)]
    simp [known]

theorem metric_eq_nil_iff (place : String) (spec : MetricSpec) :
    metric place spec = .ok [] ↔ spec.Valid := by
  have texts :
      metric place spec = .ok [] ↔
        spec.target ≠ "" ∧
          (spec.function ∈ aggregateFunctions ∧
            (spec.function = "count" ∨ (∃ field, spec.field = some field ∧ field ≠ "") ∨
              ∃ text, spec.expr = some text ∧ text ≠ "")) ∧
          ∀ text, spec.expr = some text → ValidText text := by
    rw [← metricFunction_eq_nil_iff place spec, ← not_isEmpty_iff,
      ← ensure_eq_nil_iff _ place .requiresTarget]
    rw [metric]
    cases spec.expr with
    | none => simp [Outcome.bind_eq_ok_iff]
    | some text =>
        simp only [Outcome.bind_eq_ok_iff, Except.ok.injEq, List.append_eq_nil_iff,
          Option.some.injEq, forall_eq', ← expression_eq_nil_iff place text]
        constructor
        · rintro ⟨problems, checked, ⟨target, function⟩, rfl⟩
          exact ⟨target, function, checked⟩
        · rintro ⟨target, function, checked⟩
          exact ⟨[], checked, ⟨target, function⟩, rfl⟩
  rw [texts]
  constructor
  · rintro ⟨target, ⟨function, source⟩, expr⟩
    exact ⟨target, function, source, expr⟩
  · rintro ⟨target, function, source, expr⟩
    exact ⟨target, ⟨function, source⟩, expr⟩

theorem sourceAndTarget_eq_nil_iff (place source target : String) :
    (.ok (sourceAndTarget place source target) : Check) = .ok [] ↔ source ≠ "" ∧ target ≠ "" := by
  simp [sourceAndTarget]

theorem step_eq_nil_iff (place : String) (previous next : Option Step) (current : Step) :
    step place previous next current = .ok [] ↔ current.Valid previous next := by
  cases current with
  | select fields =>
      rw [step, bind_append_eq_nil_iff,
        each_eq_nil_iff fun place (spec : FieldSpec) =>
          sourceAndTarget_eq_nil_iff place spec.source spec.target,
        uniqueTargets_eq_nil_iff]
      simp [Step.Valid]
  | filter condition => exact filter_eq_nil_iff place condition
  | compute specs =>
      rw [step, bind_append_eq_nil_iff, each_eq_nil_iff computeSpec_eq_nil_iff,
        uniqueTargets_eq_nil_iff]
      simp [Step.Valid]
  | mapValue specs =>
      rw [step, bind_append_eq_nil_iff,
        each_eq_nil_iff fun place (spec : MapSpec) =>
          sourceAndTarget_eq_nil_iff place spec.source spec.target,
        uniqueTargets_eq_nil_iff]
      simp [Step.Valid]
  | sort by_ direction => simp [step, Step.Valid]
  | groupBy keys => simp [step, Step.Valid, and_assoc]
  | aggregate metrics =>
      rw [step, bind_append_eq_nil_iff, each_eq_nil_iff metric_eq_nil_iff,
        uniqueTargets_eq_nil_iff]
      simp [Step.Valid]
  | limit count =>
      cases count with
      | none => simp [step, Step.Valid]
      | some n => simp [step, Step.Valid]

theorem steps_eq_nil_iff (index : Nat) (previous : Option Step) (items : List Step) :
    steps index previous items = .ok [] ↔ StepsValid previous items := by
  induction items generalizing index previous with
  | nil => simp [steps, StepsValid]
  | cons current rest others =>
      rw [StepsValid, ← step_eq_nil_iff (itemPlace "steps" index), ← others (index + 1), steps]
      exact join_eq_nil_iff

end Check

/-! ## Plans -/

/-- The rules find nothing wrong with a plan exactly when it is valid. -/
theorem Plan.check_eq_nil_iff (plan : Plan) : plan.check = .ok [] ↔ plan.Valid := by
  have versionChecked :
      (if plan.version.isEmpty then [(⟨"planVersion", .required⟩ : RuleProblem)]
        else Check.ensure (plan.version == planVersion) "planVersion"
          (.wrongVersion plan.version)) = [] ↔ plan.version = planVersion := by
    split
    · rename_i empty
      simp only [List.cons_ne_nil, false_iff]
      intro same
      rw [same] at empty
      revert empty
      decide
    · simp
  rw [Plan.check]
  rw [Outcome.bind_eq_ok_iff]
  constructor
  · rintro ⟨problems, stepsChecked, result⟩
    rcases List.append_eq_nil_iff.1 (Except.ok.inj result) with ⟨front, rfl⟩
    rcases List.append_eq_nil_iff.1 front with ⟨version, recordPath⟩
    exact ⟨versionChecked.1 version, by simpa using recordPath,
      (Check.steps_eq_nil_iff 0 none plan.steps).1 stepsChecked⟩
  · rintro ⟨version, recordPath, steps⟩
    refine ⟨[], (Check.steps_eq_nil_iff 0 none plan.steps).2 steps, ?_⟩
    dsimp only
    rw [versionChecked.2 version, (Check.ensure_eq_nil_iff _ _ _).2 (by simpa using recordPath)]
    rfl

/-- A plan is accepted exactly when it is valid, and then as it is. -/
theorem Plan.validate_eq_ok_iff (plan accepted : Plan) :
    plan.validate = .ok accepted ↔ accepted = plan ∧ plan.Valid := by
  rw [← plan.check_eq_nil_iff]
  rw [Plan.validate]
  split
  · rename_i error failed
    simp [failed]
  · rename_i checked
    simp [checked, eq_comm]
  · rename_i problems notEmpty checked
    simp only [reduceCtorEq, checked, Except.ok.injEq, false_iff, not_and]
    intro _ empty
    exact notEmpty (empty ▸ rfl)

end RowPlan
