import Mathlib.Data.List.Infix
import RowPlan.Proofs.FirstOccurrences
import RowPlan.Proofs.Plan.Acceptance
import RowPlan.Proofs.Value.WellFormed
import RowPlan.Template

/-!
# Plans from templates are valid

Whatever the goal, the pointer and the sample row are, the plan made from a template breaks no rule.
Selected fields have names, all of them different, since they are fields of the sample row. Metrics have
different names because no base name begins with another one, so that not even a lengthened name meets
one of the others.
-/

namespace RowPlan

theorem Pointer.join_ne_empty (segments : List String) : join segments ≠ "" := by
  cases segments with
  | nil => decide
  | cons segment rest => simp [join, String.append_eq_empty_iff]

namespace Template

/-! ## Names of fields -/

theorem mem_of_fieldFor?_eq_some
    {names : List String} {token name : String} (found : fieldFor? names token = some name) :
    name ∈ names := by
  rw [fieldFor?] at found
  split at found
  · rename_i named
    cases found
    exact List.mem_of_find?_eq_some named
  · split at found
    · cases found
    · exact List.mem_of_find?_eq_some found

theorem mentioned_subset (names tokens : List String) : mentioned names tokens ⊆ names := by
  intro name member
  rcases List.mem_filterMap.1 (List.mem_eraseDups.1 member) with ⟨token, _, found⟩
  exact mem_of_fieldFor?_eq_some found

theorem mem_of_prefer?_eq_some
    {hints mentioned names : List String} {name : String}
    (found : prefer? hints mentioned names = some name) :
    name ∈ names := by
  rw [prefer?] at found
  split at found
  · rename_i preferred
    cases found
    simpa using List.find?_some preferred
  · split at found
    · rename_i hinted
      cases found
      exact List.mem_of_find?_eq_some hinted
    · exact List.mem_of_head? found

theorem mem_of_marked?_eq_some
    {names tokens : List String} {name : String} (found : marked? names tokens = some name) :
    name ∈ names := by
  fun_induction marked? names tokens with
  | case1 marker token rest named other isNamed =>
      cases found
      dsimp only [named] at isNamed
      split at isNamed
      · exact mem_of_fieldFor?_eq_some isNamed
      · cases isNamed
  | case2 marker token rest named notNamed later => exact later found
  | case3 => cases found

theorem namesWhere_subset (fields : Row) (isSort : Value → Bool) :
    namesWhere fields isSort ⊆ fields.keys :=
  List.map_subset _ (List.filter_subset_self fields)

theorem mem_of_dimension?_eq_some
    {fields : Row} {tokens : List String} {name : String}
    (found : dimension? fields tokens = some name) :
    name ∈ fields.keys := by
  rw [dimension?] at found
  split at found
  · rename_i marked
    cases found
    exact mem_of_marked?_eq_some marked
  · exact namesWhere_subset fields isText (mem_of_prefer?_eq_some found)

theorem mem_of_measure?_eq_some
    {fields : Row} {tokens : List String} {dimension : Option String} {name : String}
    (found : measure? fields tokens dimension = some name) :
    name ∈ fields.keys :=
  namesWhere_subset fields Value.isNumber
    (List.mem_of_mem_filter (mem_of_prefer?_eq_some found))

/-- The fields of a sample row have names, all of them different. -/
structure NamesDistinct (names : List String) : Prop where
  distinct : names.Nodup
  given : ∀ name ∈ names, name ≠ ""

theorem namesDistinct_namedFields
    {sample : Row} (wellFormed : sample.WellFormed) :
    NamesDistinct (namedFields sample).keys where
  distinct := by
    have kept : (namedFields sample).keys.Sublist (sample.map Prod.fst) :=
      List.filter_sublist.map _
    exact kept.nodup ((Value.wellFormed_obj_iff sample).1 wellFormed).1
  given := by
    intro name isName
    rcases List.mem_map.1 isName with ⟨field, member, rfl⟩
    simpa using (List.mem_filter.1 member).2

theorem NamesDistinct.mentioned
    {names : List String} (named : NamesDistinct names) (tokens : List String) :
    NamesDistinct (mentioned names tokens) where
  distinct := nodup_eraseDups _
  given name isName := named.given name (mentioned_subset names tokens isName)

/-! ## Steps -/

theorem map_target_selected (names : List String) :
    (names.map fun name => (⟨Pointer.join [name], name, none⟩ : FieldSpec)).map (·.target) =
      names := by
  simp [Function.comp_def]

theorem NamesDistinct.selectStep_valid
    {names : List String} (named : NamesDistinct names) (nonempty : names ≠ [])
    (previous next : Option Step) :
    (selectStep names).Valid previous next := by
  refine ⟨by simpa using nonempty, ?_, ?_⟩
  · rw [List.forall_mem_map]
    intro name member
    exact ⟨Pointer.join_ne_empty [name], named.given name member⟩
  · rw [map_target_selected]
    exact named.distinct

/-- A metric name begins with its base. -/
theorem base_prefix_metricName (base suffix : String) (dimension : Option String) :
    base.toList <+: (metricName base suffix dimension).toList := by
  rw [metricName]
  split
  · simp [String.toList_append, List.append_assoc]
  · exact List.prefix_rfl

theorem metricName_ne
    {first second : String} (apart : ¬ first.toList <+: second.toList)
    (reverse : ¬ second.toList <+: first.toList) (suffix other : String)
    (dimension : Option String) :
    metricName first suffix dimension ≠ metricName second other dimension := by
  intro same
  have firstBegins := base_prefix_metricName first suffix dimension
  have secondBegins := base_prefix_metricName second other dimension
  rw [same] at firstBegins
  exact (List.prefix_or_prefix_of_prefix firstBegins secondBegins).elim apart reverse

/-- The bases of metric names. -/
def metricBases : List String := ["count", "total", "average", "minimum", "maximum"]

theorem metricBases_apart :
    metricBases.Pairwise fun first second =>
      ¬ first.toList <+: second.toList ∧ ¬ second.toList <+: first.toList := by
  decide

/-- All metrics that a template can make of a field: what it makes when everything is asked for. -/
def allMetrics (dimension : Option String) (measure : String) : List MetricSpec :=
  countMetric dimension :: measureMetrics ⟨true, true, true, true, true, true⟩ dimension measure

theorem nodup_targets_allMetrics (dimension : Option String) (measure : String) :
    ((allMetrics dimension measure).map (·.target)).Nodup := by
  have targets :
      (allMetrics dimension measure).map (·.target) =
        metricBases.map fun base =>
          metricName base (if base = "count" then "rows" else measure) dimension := by
    simp [allMetrics, measureMetrics, countMetric, metricBases]
  -- The bases alone tell the names apart; what follows them may be anything.
  rw [targets, List.Nodup, List.pairwise_map]
  exact metricBases_apart.imp fun apart => metricName_ne apart.1 apart.2 _ _ dimension

theorem metricName_ne_empty
    {base : String} (given : base ≠ "") (suffix : String) (dimension : Option String) :
    metricName base suffix dimension ≠ "" := by
  intro empty
  have begins := base_prefix_metricName base suffix dimension
  rw [empty] at begins
  exact given (String.toList_eq_nil_iff.1 (List.prefix_nil.1 begins))

theorem countMetric_valid (dimension : Option String) : (countMetric dimension).Valid where
  target := metricName_ne_empty (by decide) "rows" dimension
  function := by simp [countMetric, aggregateFunctions]
  source := .inl rfl
  expr := nofun

theorem fieldMetric_valid
    {base function : String} (given : base ≠ "") (known : function ∈ aggregateFunctions)
    (dimension : Option String) (measure : String) :
    MetricSpec.Valid
      ⟨metricName base measure dimension, function, some (Pointer.join [measure]), none⟩ where
  target := metricName_ne_empty given measure dimension
  function := known
  source := .inr (.inl ⟨_, rfl, Pointer.join_ne_empty [measure]⟩)
  expr := nofun

theorem allMetrics_valid
    {dimension : Option String} {measure : String} {metric : MetricSpec}
    (member : metric ∈ allMetrics dimension measure) :
    metric.Valid := by
  simp only [allMetrics, measureMetrics, Bool.or_self, if_true, List.mem_cons, List.mem_append,
    List.not_mem_nil, or_false, or_assoc] at member
  rcases member with rfl | rfl | rfl | rfl | rfl
  · exact countMetric_valid dimension
  all_goals exact fieldMetric_valid (by decide) (by decide) dimension measure

theorem measureMetrics_sublist (wish : Wish) (dimension : Option String) (measure : String) :
    (measureMetrics wish dimension measure).Sublist
      (measureMetrics ⟨true, true, true, true, true, true⟩ dimension measure) := by
  have optional {wanted : Bool} {metric : MetricSpec} :
      (if wanted = true then [metric] else []).Sublist [metric] := by
    cases wanted <;> simp
  exact ((optional.append optional).append optional).append optional

/-- The metrics of a template are those that were asked for, or else the count. -/
theorem metrics_cases (wish : Wish) (dimension measure : Option String) :
    metrics wish dimension measure = [countMetric dimension] ∨
    metrics wish dimension measure =
        (if wish.counts then [countMetric dimension] else [])
          ++ (measure.map (measureMetrics wish dimension)).getD [] ∧
      metrics wish dimension measure ≠ [] := by
  simp only [metrics]
  generalize (if wish.counts = true then [countMetric dimension] else [])
    ++ (measure.map (measureMetrics wish dimension)).getD [] = found
  cases found with
  | nil => exact .inl rfl
  | cons metric rest => exact .inr ⟨rfl, List.cons_ne_nil metric rest⟩

theorem metrics_ne_nil (wish : Wish) (dimension measure : Option String) :
    metrics wish dimension measure ≠ [] := by
  rcases metrics_cases wish dimension measure with counted | ⟨_, some⟩
  · exact counted ▸ List.cons_ne_nil _ _
  · exact some

theorem metrics_sublist (wish : Wish) (dimension measure : Option String) :
    (metrics wish dimension measure).Sublist (allMetrics dimension (measure.getD "")) := by
  rcases metrics_cases wish dimension measure with counted | ⟨found, _⟩
  · rw [counted]
    exact (List.nil_sublist _).cons_cons _
  · have count :
        (if wish.counts = true then [countMetric dimension] else []).Sublist
          [countMetric dimension] := by
      cases wish.counts <;> simp
    have measured :
        ((measure.map (measureMetrics wish dimension)).getD []).Sublist
          (measureMetrics ⟨true, true, true, true, true, true⟩ dimension (measure.getD "")) := by
      cases measure with
      | none => exact List.nil_sublist _
      | some field => exact measureMetrics_sublist wish dimension field
    rw [found]
    exact count.append measured

/-- Metrics of a template may stand in an aggregation. -/
theorem aggregate_valid
    (wish : Wish) (dimension measure : Option String) (previous next : Option Step) :
    (Step.aggregate (metrics wish dimension measure)).Valid previous next := by
  have kept := metrics_sublist wish dimension measure
  refine ⟨.inl (metrics_ne_nil wish dimension measure), ?_, ?_⟩
  · exact fun metric member => allMetrics_valid (kept.subset member)
  · exact (kept.map _).nodup (nodup_targets_allMetrics dimension _)

/-! ## Plans -/

theorem planOf_valid (recordPath : String) {steps : List Step} (valid : StepsValid none steps) :
    (planOf recordPath steps).Valid where
  version := rfl
  recordPath := by
    rw [planOf]
    dsimp only
    split
    · decide
    · rename_i given
      simpa using given
  steps := valid

/-- A template keeps the pointer that it is given. -/
theorem planOf_recordPath
    {recordPath : String} (given : recordPath ≠ "") (steps : List Step) :
    (planOf recordPath steps).recordPath = recordPath := by
  rw [planOf]
  dsimp only
  rw [if_neg (by simpa using given)]

/-- The steps that a template plans. -/
def plannedSteps (tokens : List String) (fields : Row) : Kind → List Step
  | .grouped =>
    let dimension := dimension? fields tokens
    let metrics := metrics (Wish.ofTokens tokens) dimension (measure? fields tokens dimension)
    (dimension.map fun name => Step.groupBy [Pointer.join [name]]).toList ++ [.aggregate metrics]
  | .mentioned => [selectStep (mentioned fields.keys tokens)]
  | .everything => if fields.isEmpty then [] else [selectStep fields.keys]

/-- What a match consists of: the steps of its template, for the records at the given pointer. Fields are
selected as mentioned only where some are. -/
structure Match.Planned (tokens : List String) (recordPath : String) (fields : Row) (found : Match) :
    Prop where
  plan : found.plan = planOf recordPath (plannedSteps tokens fields found.kind)
  mentioned : found.kind = .mentioned → mentioned fields.keys tokens ≠ []

section Templates

variable {tokens : List String} {recordPath : String} {fields : Row} {found : Match}

theorem grouped?_planned (grouped : grouped? tokens recordPath fields = some found) :
    found.Planned tokens recordPath fields := by
  simp only [grouped?] at grouped
  split at grouped
  · cases grouped
  · split at grouped
    all_goals
      rename_i dimension
      cases grouped
      refine ⟨?_, nofun⟩
      simp only [plannedSteps, dimension]
      rfl

theorem mentioned?_planned (chosen : mentioned? tokens recordPath fields = some found) :
    found.Planned tokens recordPath fields := by
  simp only [mentioned?] at chosen
  split at chosen
  · cases chosen
  · rename_i nonempty
    cases chosen
    exact ⟨rfl, fun _ => by simpa using nonempty⟩

theorem everything_planned (tokens : List String) (recordPath : String) (fields : Row) :
    (everything recordPath fields).Planned tokens recordPath fields := by
  rw [everything]
  split
  · rename_i empty
    refine ⟨?_, nofun⟩
    rw [plannedSteps, if_pos empty]
  · rename_i nonempty
    refine ⟨?_, nofun⟩
    rw [plannedSteps, if_neg nonempty]

end Templates

/-- Whichever template applies, its match is as planned. -/
theorem run_planned (goal recordPath : String) (sample : Row) :
    (run goal recordPath sample).Planned (Goal.tokens goal) recordPath (namedFields sample) := by
  have found :
      (((grouped? (Goal.tokens goal) recordPath (namedFields sample)).orElse fun _ =>
          mentioned? (Goal.tokens goal) recordPath (namedFields sample)).getD
        (everything recordPath (namedFields sample))).Planned (Goal.tokens goal) recordPath
          (namedFields sample) := by
    cases grouped : grouped? (Goal.tokens goal) recordPath (namedFields sample) with
    | some found => exact grouped?_planned grouped
    | none =>
        cases chosen : mentioned? (Goal.tokens goal) recordPath (namedFields sample) with
        | some found => simpa [chosen] using mentioned?_planned chosen
        | none => simpa [chosen] using everything_planned _ recordPath _
  simp only [run]
  split
  · exact found
  · exact ⟨found.plan, found.mentioned⟩

theorem plannedSteps_valid
    {fields : Row} (named : NamesDistinct fields.keys) (tokens : List String) {kind : Kind}
    (some : kind = .mentioned → mentioned fields.keys tokens ≠ []) :
    StepsValid none (plannedSteps tokens fields kind) := by
  cases kind with
  | grouped =>
      rw [plannedSteps]
      cases dimension? fields tokens with
      | none => exact ⟨aggregate_valid _ _ _ _ _, trivial⟩
      | some name =>
          have keyGiven : ∀ key ∈ [Pointer.join [name]], key ≠ "" :=
            List.forall_mem_singleton.2 (Pointer.join_ne_empty [name])
          exact ⟨⟨List.cons_ne_nil _ _, keyGiven, rfl⟩, aggregate_valid _ _ _ _ _, trivial⟩
  | mentioned => exact ⟨(named.mentioned tokens).selectStep_valid (some rfl) _ _, trivial⟩
  | everything =>
      rw [plannedSteps]
      split
      · trivial
      · rename_i nonempty
        exact ⟨named.selectStep_valid (by simpa [Row.keys] using nonempty) _ _, trivial⟩

theorem run_plan_valid
    (goal recordPath : String) {sample : Row} (wellFormed : sample.WellFormed) :
    (run goal recordPath sample).plan.Valid := by
  have planned := run_planned goal recordPath sample
  rw [planned.plan]
  exact planOf_valid recordPath
    (plannedSteps_valid (namesDistinct_namedFields wellFormed) _ planned.mentioned)

theorem run_plan_recordPath
    (goal : String) {recordPath : String} (given : recordPath ≠ "") (sample : Row) :
    (run goal recordPath sample).plan.recordPath = recordPath := by
  rw [(run_planned goal recordPath sample).plan, planOf_recordPath given]

end Template

end RowPlan
