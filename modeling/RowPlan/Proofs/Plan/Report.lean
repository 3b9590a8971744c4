import RowPlan.Proofs.Expr.Unreadable
import RowPlan.Plan.Check

/-!
# What the check says about expressions

The check of a plan visits its expression texts one after the other. The first text with an
unreadable numeral ends it; if there is none, its problems with expressions are those of the texts,
each at the place of its text and in the order of the plan.
-/

namespace RowPlan

namespace Check

/-- The numeral error with which reading a text ends, if it does. -/
def stops? (text : String) : Option NumeralError :=
  match Expr.parse text with
  | .error (.numeral error) => some error
  | _ => none

/-- What is reported of an expression text, if anything. -/
def complaint? (text : String) : Option Violation :=
  if Text.isBlankText text then some .requiresExpr
  else
    match Expr.parse text with
    | .ok _ => none
    | .error error => some (.badExpression error.message)

end Check

/-- Violations that are about an expression text. -/
def Violation.aboutExpression : Violation → Bool
  | .requiresExpr => true
  | .badExpression _ => true
  | _ => false

/-- The expression texts of a step and their places, given the place of the step. -/
def Step.placedTexts (place : String) : Step → List (String × String)
  | .filter (some (.expr text)) => [(place ++ ".where", text)]
  | .compute specs => specs.zipIdx.flatMap fun (spec, index) =>
    [(Check.itemPlace (place ++ ".compute") index, spec.expr)]
  | .aggregate metrics => metrics.zipIdx.flatMap fun (metric, index) =>
    metric.expr.toList.map fun text => (Check.itemPlace (place ++ ".metrics") index, text)
  | _ => []

/-- The expression texts of a plan and their places. -/
def Plan.placedTexts (plan : Plan) : List (String × String) :=
  plan.steps.zipIdx.flatMap fun (step, index) =>
    step.placedTexts (Check.itemPlace "steps" index)

namespace Check

theorem stops?_eq_some_iff
    {text : String} {error : NumeralError} :
    stops? text = some error ↔ Expr.parse text = .error (.numeral error) := by
  rw [stops?]
  split
  · rename_i stopped
    rw [stopped]
    simp
  · rename_i other
    exact iff_of_false nofun (other error)

/-- Problems that are not about an expression. -/
def Silent (problems : List RuleProblem) : Prop :=
  problems.filter (·.violation.aboutExpression) = []

@[simp]
theorem silent_nil : Silent [] := rfl

@[simp]
theorem silent_append_iff
    {problems more : List RuleProblem} :
    Silent (problems ++ more) ↔ Silent problems ∧ Silent more := by
  rw [Silent, List.filter_append, List.append_eq_nil_iff]
  exact Iff.rfl

@[simp]
theorem silent_singleton_iff
    {place : String} {violation : Violation} :
    Silent [⟨place, violation⟩] ↔ violation.aboutExpression = false := by
  rw [Silent, List.filter_singleton]
  cases violation.aboutExpression <;> simp

theorem silent_ensure
    {violation : Violation} (other : violation.aboutExpression = false) (holds : Bool)
    (place : String) :
    Silent (ensure holds place violation) := by
  rw [ensure]
  split
  · exact silent_nil
  · exact silent_singleton_iff.2 other

theorem silent_uniqueTargets (place : String) (names : List String) :
    Silent (uniqueTargets place names) := by
  rw [Silent, uniqueTargets, List.filter_map, List.map_eq_nil_iff, List.filter_eq_nil_iff]
  rintro name _ ⟨⟩

theorem silent_operand (place side : String) (written : Option Value) :
    Silent (operand place side written) := by
  unfold operand
  split
  · split
    · exact silent_ensure rfl _ _
    · exact silent_nil
  · exact silent_nil

theorem silent_test (place op : String) (left right : Option Value) :
    Silent (test place op left right) := by
  unfold test
  simp only [silent_append_iff]
  exact ⟨⟨⟨⟨silent_ensure rfl _ _, silent_ensure rfl _ _⟩, silent_ensure rfl _ _⟩,
    silent_operand _ _ _⟩, silent_operand _ _ _⟩

mutual

theorem silent_condition (place : String) : (tree : Condition) → Silent (condition place tree)
  | .node op left right items => by
      rw [condition]
      split
      · exact silent_append_iff.2 ⟨silent_ensure rfl _ _, silent_optionalParts place items⟩
      · split
        · exact silent_append_iff.2 ⟨silent_ensure rfl _ _, silent_optionalParts place items⟩
        · split
          · exact silent_test place op left right
          · exact silent_singleton_iff.2 rfl

theorem silent_optionalParts (place : String) :
    (items : Option (List Condition)) → Silent (optionalParts place items)
  | none => silent_nil
  | some items => silent_parts (place ++ ".items") 0 items

theorem silent_parts (place : String) (index : Nat) :
    (items : List Condition) → Silent (parts place index items)
  | [] => silent_nil
  | part :: rest =>
      silent_append_iff.2
        ⟨silent_condition (itemPlace place index) part, silent_parts place (index + 1) rest⟩

end

/-! ## Checks of expression texts -/

/-- What a check says about the expression texts that it visits. -/
structure Reports (check : Check) (texts : List (String × String)) : Prop where
  /-- It ends with the numeral error of the first text that has one. -/
  stopped :
    ∀ error, check = .error error ↔ texts.findSome? (fun placed => stops? placed.2) = some error
  /-- Otherwise its problems with expressions are those of the texts, in order. -/
  listed :
    ∀ problems, check = .ok problems →
      problems.filter (·.violation.aboutExpression) =
        texts.filterMap fun placed => (complaint? placed.2).map (RuleProblem.mk placed.1)

theorem Reports.silent
    {problems : List RuleProblem} (silent : Silent problems) :
    Reports (.ok problems) [] where
  stopped error := by simp
  listed same checked := by
    cases checked
    exact silent

theorem reports_expression (place text : String) :
    Reports (expression place text) [(place, text)] := by
  have first {β : Type} (f : String × String → Option β) :
      [(place, text)].findSome? f = f (place, text) := by
    rw [List.findSome?_singleton]
  cases blank : Text.isBlankText text with
  | true =>
      have checked : expression place text = .ok [⟨place, .requiresExpr⟩] := by
        rw [expression, if_pos blank]
      refine ⟨fun error => ?_, fun problems found => ?_⟩
      · rw [checked, first, stops?_eq_some_iff]
        refine iff_of_false nofun fun stopped => ?_
        exact Expr.not_unreadable_of_blank blank ((Expr.parse_stops_iff text).1 ⟨error, stopped⟩)
      · cases checked.symm.trans found
        simp [complaint?, blank, Violation.aboutExpression]
  | false =>
      have noBlank : ¬Text.isBlankText text = true := by simp [blank]
      refine ⟨fun error => ?_, fun problems found => ?_⟩
      · rw [first, stops?_eq_some_iff, expression, if_neg noBlank]
        cases Expr.parse text with
        | ok expr => simp
        | error problem => cases problem <;> simp
      · rw [expression, if_neg noBlank] at found
        cases parsed : Expr.parse text with
        | ok expr =>
            rw [parsed] at found
            cases found
            simp [complaint?, blank, parsed]
        | error problem =>
            rw [parsed] at found
            cases problem with
            | malformed fault position =>
                cases found
                simp [complaint?, blank, parsed, Violation.aboutExpression]
            | numeral error => cases found

variable {check first second : Check} {texts more : List (String × String)}

theorem Reports.mem_of_complaint
    (reports : Reports check texts)
    {problems : List RuleProblem} (checked : check = .ok problems) {place text : String}
    (placed : (place, text) ∈ texts) {violation : Violation}
    (complains : complaint? text = some violation) :
    ⟨place, violation⟩ ∈ problems := by
  have reported :
      (⟨place, violation⟩ : RuleProblem) ∈
        texts.filterMap fun placed => (complaint? placed.2).map (RuleProblem.mk placed.1) :=
    List.mem_filterMap.2 ⟨(place, text), placed, by rw [complains]; rfl⟩
  rw [← reports.listed problems checked] at reported
  exact List.mem_of_mem_filter reported

/-- What is added to the problems found does not matter if it is not about an expression. -/
theorem Reports.amid
    (reports : Reports check texts) {result : List RuleProblem → List RuleProblem}
    (adds : ∀ problems, (result problems).filter (·.violation.aboutExpression) =
      problems.filter (·.violation.aboutExpression)) :
    Reports (check >>= fun problems => .ok (result problems)) texts where
  stopped error := by
    rw [Outcome.bind_eq_error_iff, ← reports.stopped error]
    simp
  listed problems checked := by
    rcases Outcome.bind_eq_ok_iff.1 checked with ⟨found, foundChecked, same⟩
    cases same
    rw [adds, reports.listed found foundChecked]

theorem Reports.join
    (reports : Reports first texts) (later : Reports second more) :
    Reports (first >>= fun problems => second >>= fun others => .ok (problems ++ others))
      (texts ++ more) where
  stopped error := by
    rw [List.findSome?_append, Option.or_eq_some_iff, ← reports.stopped error,
      ← later.stopped error, Outcome.bind_eq_error_iff]
    apply or_congr_right
    constructor
    · rintro ⟨found, foundChecked, failed⟩
      have none : texts.findSome? (fun placed => stops? placed.2) = none := by
        rw [Option.eq_none_iff_forall_ne_some]
        intro error stopped
        cases foundChecked.symm.trans ((reports.stopped error).2 stopped)
      refine ⟨none, ?_⟩
      rcases Outcome.bind_eq_error_iff.1 failed with failed | ⟨others, _, failed⟩
      · exact failed
      · cases failed
    · rintro ⟨none, failed⟩
      cases checked : first with
      | error other => cases none.symm.trans ((reports.stopped other).1 checked)
      | ok found => exact ⟨found, rfl, Outcome.bind_eq_error_iff.2 (Or.inl failed)⟩
  listed problems checked := by
    rcases Outcome.bind_eq_ok_iff.1 checked with ⟨found, foundChecked, checked⟩
    rcases Outcome.bind_eq_ok_iff.1 checked with ⟨others, othersChecked, same⟩
    cases same
    rw [List.filter_append, reports.listed found foundChecked, later.listed others othersChecked,
      List.filterMap_append]

theorem reports_each {α : Type}
    (check : String → α → Check) (texts : String → α → List (String × String))
    (reports : ∀ place item, Reports (check place item) (texts place item))
    (place : String) (index : Nat) (items : List α) :
    Reports (each place check index items)
      ((items.zipIdx index).flatMap fun (item, index) => texts (itemPlace place index) item) := by
  induction items generalizing index with
  | nil => exact .silent silent_nil
  | cons item rest later =>
      rw [List.zipIdx_cons, List.flatMap_cons]
      exact (reports _ item).join (later (index + 1))

/-! ## The check of a plan -/

theorem adds_silent
    {before after : List RuleProblem} (silentBefore : Silent before) (silentAfter : Silent after)
    (problems : List RuleProblem) :
    (before ++ problems ++ after).filter (·.violation.aboutExpression) =
      problems.filter (·.violation.aboutExpression) := by
  rw [List.filter_append, List.filter_append, silentBefore, silentAfter, List.nil_append,
    List.append_nil]

theorem adds_silent_before
    {before : List RuleProblem} (silentBefore : Silent before) (problems : List RuleProblem) :
    (before ++ problems).filter (·.violation.aboutExpression) =
      problems.filter (·.violation.aboutExpression) := by
  rw [List.filter_append, silentBefore, List.nil_append]

theorem reports_computeSpec (place : String) (spec : ComputeSpec) :
    Reports (computeSpec place spec) [(place, spec.expr)] :=
  (reports_expression place spec.expr).amid (adds_silent_before (silent_ensure rfl _ _))

theorem reports_metric (place : String) (spec : MetricSpec) :
    Reports (metric place spec) (spec.expr.toList.map fun text => (place, text)) := by
  have silent : Silent
      (ensure (!spec.target.isEmpty) place .requiresTarget ++
        if !aggregateFunctions.contains spec.function then
          [⟨place, .unknownFunction spec.function⟩]
        else
          ensure (spec.function == "count" || isPresent spec.field || isPresent spec.expr) place
            (.requires spec.function "'field' or 'expr'")) := by
    refine silent_append_iff.2 ⟨silent_ensure rfl _ _, ?_⟩
    split
    · exact silent_singleton_iff.2 rfl
    · exact silent_ensure rfl _ _
  rw [metric]
  cases given : spec.expr with
  | none =>
      rw [given] at silent
      exact (Reports.silent silent_nil).amid (adds_silent_before silent)
  | some text =>
      rw [given] at silent
      exact (reports_expression place text).amid (adds_silent_before silent)

theorem reports_sources {α : Type} (source target : α → String) (place : String) (items : List α) :
    Reports
      (each place
        (fun place item => .ok (sourceAndTarget place (source item) (target item))) 0 items)
      [] := by
  have reports :=
    reports_each (fun place item => .ok (sourceAndTarget place (source item) (target item)))
      (fun _ _ => []) (fun place item => .silent (silent_ensure rfl _ _)) place 0 items
  rwa [List.flatMap_eq_nil_iff.2 fun _ _ => rfl] at reports

theorem reports_step (place : String) (previous next : Option Step) (current : Step) :
    Reports (step place previous next current) (current.placedTexts place) := by
  cases current with
  | select fields =>
      exact (reports_sources FieldSpec.source FieldSpec.target _ fields).amid
        (adds_silent (silent_ensure rfl _ _) (silent_uniqueTargets _ _))
  | filter condition =>
      cases condition with
      | none => exact .silent (silent_singleton_iff.2 rfl)
      | some kept =>
          cases kept with
          | expr text => exact reports_expression _ text
          | tree tree => exact .silent (silent_condition _ tree)
  | compute specs =>
      exact (reports_each computeSpec _ reports_computeSpec _ 0 specs).amid
        (adds_silent (silent_ensure rfl _ _) (silent_uniqueTargets _ _))
  | mapValue specs =>
      exact (reports_sources MapSpec.source MapSpec.target _ specs).amid
        (adds_silent (silent_ensure rfl _ _) (silent_uniqueTargets _ _))
  | sort by_ direction =>
      exact .silent (silent_append_iff.2 ⟨silent_ensure rfl _ _, silent_ensure rfl _ _⟩)
  | groupBy keys =>
      exact .silent (silent_append_iff.2 ⟨silent_ensure rfl _ _, silent_ensure rfl _ _⟩)
  | aggregate metrics =>
      exact (reports_each metric _ reports_metric _ 0 metrics).amid
        (adds_silent (silent_ensure rfl _ _) (silent_uniqueTargets _ _))
  | limit count => exact .silent (silent_ensure rfl _ _)

theorem reports_steps (index : Nat) (previous : Option Step) (items : List Step) :
    Reports (steps index previous items)
      ((items.zipIdx index).flatMap fun (step, index) =>
        step.placedTexts (itemPlace "steps" index)) := by
  induction items generalizing index previous with
  | nil => exact .silent silent_nil
  | cons current rest later =>
      rw [List.zipIdx_cons, List.flatMap_cons]
      exact (reports_step _ previous rest.head? current).join (later (index + 1) (some current))

end Check

/-- The check of a plan visits all its expression texts. -/
theorem Plan.check_reports (plan : Plan) : plan.check.Reports plan.placedTexts := by
  refine (Check.reports_steps 0 none plan.steps).amid
    (Check.adds_silent_before (Check.silent_append_iff.2 ⟨?_, Check.silent_ensure rfl _ _⟩))
  split
  · exact Check.silent_singleton_iff.2 rfl
  · exact Check.silent_ensure rfl _ _

end RowPlan
