import RowPlan.Proofs.Execution.GroupColumns
import RowPlan.Proofs.Pointer
import RowPlan.Proofs.Template

/-!
# The columns of plans from templates

A plan from a template runs on the rows that its sample row begins, and the rows that come out have the
columns that were planned, in their order: the selected fields, or the field to group by and then the
metrics. No field is looked for in vain, since a pointer to a field of the sample row stands for that
field, whatever its name is made of. No column is lost either: a metric that would have the name of the
field to group by is renamed, and the longer name differs from it.
-/

namespace RowPlan

/-! ## Columns of steps -/

namespace StepResult

theorem notesOn_eq_nil_iff (references : List String) (sample : Row) :
    notesOn references sample = [] ↔
      ∀ reference ∈ references, (Field.resolve reference sample).note = none :=
  List.filterMap_eq_nil_iff

/-- A selection gives its columns to every row, and no notes if all of its fields are there. -/
theorem run_select_of_resolved
    {fields : List FieldSpec} (distinct : (fields.map (·.target)).Nodup) (state : State)
    (nonempty : state.rows ≠ [])
    (resolved : notesOn (fields.map (·.source)) (Records.sample state.rows) = []) :
    ∃ rows,
      (Step.select fields).run state = .ok ({ state with rows := rows }, []) ∧
      ∀ row ∈ rows, row.keys = fields.map (·.target) := by
  have noNotes :
      (fields.map fun spec =>
          (spec.target, Field.resolve spec.source (Records.sample state.rows))).filterMap
        (·.2.note) = [] := by
    rw [notesOn, List.filterMap_map] at resolved
    rwa [List.filterMap_map]
  have written (row : Row) :
      (Row.ofPairs (fields.map fun spec =>
        (spec.target,
          Field.readOrNull row (Field.resolve spec.source (Records.sample state.rows))))).keys =
        fields.map (·.target) := by
    rw [Row.keys_ofPairs] <;> rw [List.map_map]
    · rfl
    · exact distinct
  simp only [Step.run, select, List.isEmpty_iff, if_neg nonempty, noNotes, List.map_map]
  refine ⟨_, rfl, ?_⟩
  rw [List.forall_mem_map]
  exact fun row _ => written row

theorem keys_groupRow
    {metrics : List MetricSpec} {sample : Row} {group : Group} {row : Row}
    (distinct : (group.key.keys ++ metrics.map (·.target)).Nodup)
    (computed : groupRow metrics sample group = .ok row) :
    row.keys = group.key.keys ++ metrics.map (·.target) := by
  rcases groupRow_eq_ok_iff.1 computed with ⟨values, each, rfl⟩
  have targets : ((metrics.map (·.target)).zip values).map (·.1) = metrics.map (·.target) :=
    List.map_fst_zip (by simp [each.length_eq])
  rw [Row.setAll_of_nodup (by rwa [targets]), Row.keys, List.map_append, targets]
  rfl

/-- An aggregation gives its columns to the row of every group whose key has the columns `keys`, and no
notes if all of its fields are there. -/
theorem run_aggregate_of_resolved
    {metrics : List MetricSpec} (valid : ∀ metric ∈ metrics, metric.Valid) (state : State)
    {keys : List String} (distinct : (keys ++ metrics.map (·.target)).Nodup)
    (keyed : ∀ group ∈ state.groups.getD [⟨[], state.rows⟩], group.key.keys = keys)
    (resolved : notesOn (metricFields metrics) (Records.sample state.rows) = []) :
    ∃ rows,
      (Step.aggregate metrics).run state = .ok (⟨rows, none⟩, []) ∧
      ∀ row ∈ rows, row.keys = keys ++ metrics.map (·.target) := by
  have succeeds (group : Group) (_ : group ∈ state.groups.getD [⟨[], state.rows⟩]) :
      ∃ row, groupRow metrics (Records.sample state.rows) group = .ok row :=
    groupRow_succeeds valid _ group
  rcases Outcome.mapM_succeeds succeeds with ⟨rows, computed⟩
  refine ⟨rows, ?_, ?_⟩
  · simp only [Step.run, aggregate, computed, resolved, ite_self]
    rfl
  · intro row member
    rcases List.mem_iff_getElem?.1 member with ⟨i, found⟩
    rcases exists_related_of_getElem? (Outcome.mapM_eq_ok_iff.1 computed) found with
      ⟨group, isGroup, groupRowComputed⟩
    have key := keyed group (List.mem_of_getElem? isGroup)
    rw [← key] at distinct ⊢
    exact keys_groupRow distinct groupRowComputed

end StepResult

namespace Template

/-! ## Fields -/

/-- Names of fields of a sample row that a pointer can name. -/
def Named (sample : Row) (names : List String) : Prop :=
  ∀ name ∈ names, name ≠ "" ∧ name ∈ sample.keys

theorem named_namedFields (sample : Row) : Named sample (namedFields sample).keys := by
  intro name isName
  rcases List.mem_map.1 isName with ⟨field, member, rfl⟩
  rcases List.mem_filter.1 member with ⟨isField, given⟩
  exact ⟨by simpa using given, List.mem_map_of_mem isField⟩

/-! ## Selecting and grouping -/

theorem Named.notesOn_eq_nil
    {sample : Row} {names : List String} (named : Named sample names) :
    StepResult.notesOn (names.map fun name => Pointer.join [name]) sample = [] := by
  rw [StepResult.notesOn_eq_nil_iff, List.forall_mem_map]
  intro name member
  rw [Field.resolve_join_singleton (named name member).1 (named name member).2]

theorem keyColumns_singleton
    {name : String} {sample : Row} (given : name ≠ "") (isField : name ∈ sample.keys) :
    StepResult.keyColumns [Pointer.join [name]] sample =
      [(name, ⟨name, name, Pointer.join [name], none⟩)] := by
  have column :
      StepResult.keyName (Pointer.join [name]) ⟨name, name, Pointer.join [name], none⟩ = name := by
    simp only [StepResult.keyName, Pointer.lastSegment_join_singleton given]
    exact if_neg (by simpa using given)
  simp only [StepResult.keyColumns, List.map_cons, List.map_nil,
    Field.resolve_join_singleton given isField, column]

theorem run_groupBy_cons (keys : List String) (sample : Row) (rest : List Row) :
    (Step.groupBy keys).run ⟨sample :: rest, none⟩ =
      .ok
        (⟨sample :: rest,
          some (StepResult.groupRows (StepResult.keyColumns keys sample) (sample :: rest))⟩,
        (StepResult.keyColumns keys sample).filterMap (·.2.note)) :=
  rfl

/-- Grouping by a field of the sample row gives groups whose keys have this field alone. -/
theorem run_groupBy_field
    {name : String} {sample : Row} (given : name ≠ "") (isField : name ∈ sample.keys)
    {rest : List Row} (wellFormed : ∀ row ∈ sample :: rest, row.WellFormed) :
    ∃ groups,
      (Step.groupBy [Pointer.join [name]]).run ⟨sample :: rest, none⟩ =
        .ok (⟨sample :: rest, some groups⟩, []) ∧
      ∀ group ∈ groups, group.key.keys = [name] := by
  rw [run_groupBy_cons, keyColumns_singleton given isField]
  refine ⟨_, rfl, ?_⟩
  intro group member
  rcases StepResult.groupRows_keyed _ wellFormed member with ⟨first, _, _, hasKey⟩
  rw [hasKey]
  rfl

/-! ## Metrics -/

theorem metricName_ne_dimension (base suffix dimension : String) :
    metricName base suffix (some dimension) ≠ dimension := by
  rw [metricName]
  split
  · rename_i same
    cases same
    intro longer
    have lengths := congrArg String.length longer
    have mark : "_".length = 1 := rfl
    rw [String.length_append, String.length_append] at lengths
    omega
  · rename_i different
    intro same
    exact different (congrArg some same.symm)

theorem target_ne_dimension
    {wish : Wish} {dimension : String} {measure : Option String} {metric : MetricSpec}
    (member : metric ∈ metrics wish (some dimension) measure) :
    metric.target ≠ dimension := by
  have known := (metrics_sublist wish (some dimension) measure).subset member
  simp only [allMetrics, measureMetrics, countMetric, Bool.or_self, if_true, List.mem_cons,
    List.mem_append, List.not_mem_nil, or_false, or_assoc] at known
  rcases known with rfl | rfl | rfl | rfl | rfl <;> exact metricName_ne_dimension _ _ _

/-- The columns of a grouped plan have different names. -/
theorem nodup_groupedColumns (wish : Wish) (dimension measure : Option String) :
    (dimension.toList ++ (metrics wish dimension measure).map (·.target)).Nodup := by
  have targets := ((metrics_sublist wish dimension measure).map (·.target)).nodup
    (nodup_targets_allMetrics dimension _)
  cases dimension with
  | none => exact targets
  | some name =>
      refine List.nodup_cons.2 ⟨?_, targets⟩
      intro isTarget
      rcases List.mem_map.1 isTarget with ⟨metric, member, same⟩
      exact target_ne_dimension member same

theorem source_of_mem_metrics
    {wish : Wish} {dimension measure : Option String} {metric : MetricSpec}
    (member : metric ∈ metrics wish dimension measure) :
    metric.function = "count" ∨
      ∃ name, measure = some name ∧ metric.field = some (Pointer.join [name]) := by
  have counted (isCount : metric ∈ [countMetric dimension]) : metric.function = "count" := by
    cases List.mem_singleton.1 isCount
    rfl
  rcases metrics_cases wish dimension measure with single | ⟨found, _⟩
  · exact .inl (counted (single ▸ member))
  · rw [found, List.mem_append] at member
    rcases member with isCount | isMeasure
    · split at isCount
      · exact .inl (counted isCount)
      · cases isCount
    · cases measure with
      | none => cases isMeasure
      | some name =>
          have known := (measureMetrics_sublist wish dimension name).subset isMeasure
          simp only [measureMetrics, Bool.or_self, if_true, List.mem_append, List.mem_singleton,
            or_assoc] at known
          refine .inr ⟨name, rfl, ?_⟩
          rcases known with rfl | rfl | rfl | rfl <;> rfl

theorem notesOn_metricFields
    {sample : Row} {measure : Option String} (named : Named sample measure.toList) (wish : Wish)
    (dimension : Option String) :
    StepResult.notesOn (StepResult.metricFields (metrics wish dimension measure)) sample = [] := by
  rw [StepResult.notesOn_eq_nil_iff]
  intro reference isReference
  rcases List.mem_filterMap.1 isReference with ⟨metric, member, read⟩
  split at read
  · rename_i direct
    rcases source_of_mem_metrics member with counts | ⟨name, rfl, field⟩
    · simp [counts] at direct
    · have isName := named name (by simp)
      rw [field, StepResult.given?_eq_some_iff] at read
      cases read.1
      rw [Field.resolve_join_singleton isName.1 isName.2]
  · cases read

/-! ## Plans -/

/-- The columns that a template plans: the selected fields, or the field to group by and the metrics. -/
def plannedColumns (tokens : List String) (fields : Row) : Kind → List String
  | .grouped =>
    let dimension := dimension? fields tokens
    let metrics := metrics (Wish.ofTokens tokens) dimension (measure? fields tokens dimension)
    dimension.toList ++ metrics.map (·.target)
  | .mentioned => mentioned fields.keys tokens
  | .everything => fields.keys

/-- Steps that give rows with some columns, and nothing to say about them. -/
def Makes (steps : List Step) (rows : List Row) (columns : List String) : Prop :=
  ∃ made, runFrom ⟨rows, none⟩ steps = .ok (⟨made, none⟩, []) ∧ ∀ row ∈ made, row.keys = columns

variable {sample : Row} {rest : List Row}

theorem makes_selectStep
    {names : List String} (distinct : names.Nodup) (named : Named sample names) :
    Makes [selectStep names] (sample :: rest) names := by
  have columns := map_target_selected names
  have resolved := named.notesOn_eq_nil
  rcases StepResult.run_select_of_resolved (columns.symm ▸ distinct) ⟨sample :: rest, none⟩
      (List.cons_ne_nil _ _) (by rwa [List.map_map]) with
    ⟨rows, ran, keys⟩
  refine ⟨rows, runFrom_cons_eq_ok_iff.2 ⟨_, _, _, ran, rfl, rfl⟩, ?_⟩
  rwa [columns] at keys

/-- Metrics of a template follow the columns of the groups that wait for them. -/
theorem run_aggregate_metrics
    (wish : Wish) (dimension : Option String) {measure : Option String}
    (named : Named sample measure.toList) (rest : List Row) (groups : Option (List Group))
    (keyed : ∀ group ∈ groups.getD [⟨[], sample :: rest⟩], group.key.keys = dimension.toList) :
    ∃ rows,
      (Step.aggregate (metrics wish dimension measure)).run ⟨sample :: rest, groups⟩ =
        .ok (⟨rows, none⟩, []) ∧
      ∀ row ∈ rows,
        row.keys = dimension.toList ++ (metrics wish dimension measure).map (·.target) := by
  have valid (metric : MetricSpec) (member : metric ∈ metrics wish dimension measure) :
      metric.Valid :=
    allMetrics_valid ((metrics_sublist wish dimension measure).subset member)
  exact StepResult.run_aggregate_of_resolved valid ⟨sample :: rest, groups⟩
    (nodup_groupedColumns wish dimension measure) keyed (notesOn_metricFields named wish dimension)

theorem plannedSteps_make_grouped
    (wellFormed : ∀ row ∈ sample :: rest, row.WellFormed) (tokens : List String) :
    Makes (plannedSteps tokens (namedFields sample) .grouped) (sample :: rest)
      (plannedColumns tokens (namedFields sample) .grouped) := by
  have measureNamed (dimension : Option String) :
      Named sample (measure? (namedFields sample) tokens dimension).toList := by
    intro name isMeasure
    exact named_namedFields sample name (mem_of_measure?_eq_some (Option.mem_toList.1 isMeasure))
  rw [plannedSteps, plannedColumns]
  cases dimension : dimension? (namedFields sample) tokens with
  | none =>
      have whole : ∀ group ∈ [Group.mk [] (sample :: rest)], group.key.keys = [] :=
        List.forall_mem_singleton.2 rfl
      rcases run_aggregate_metrics (Wish.ofTokens tokens) none (measureNamed none) rest none whole
        with ⟨rows, ran, keys⟩
      exact ⟨rows, runFrom_cons_eq_ok_iff.2 ⟨_, _, _, ran, rfl, rfl⟩, keys⟩
  | some name =>
      have isName := named_namedFields sample name (mem_of_dimension?_eq_some dimension)
      rcases run_groupBy_field isName.1 isName.2 wellFormed with ⟨groups, groupRan, keyed⟩
      rcases run_aggregate_metrics (Wish.ofTokens tokens) (some name) (measureNamed (some name)) rest
        (some groups) keyed with ⟨rows, ran, keys⟩
      refine ⟨rows, runFrom_cons_eq_ok_iff.2 ⟨_, _, _, groupRan, ?_, rfl⟩, keys⟩
      exact runFrom_cons_eq_ok_iff.2 ⟨_, _, _, ran, rfl, rfl⟩

/-- Planned steps, if there are any, give the planned columns. -/
theorem plannedSteps_make
    (wellFormed : ∀ row ∈ sample :: rest, row.WellFormed) (tokens : List String) (kind : Kind)
    (planned : plannedSteps tokens (namedFields sample) kind ≠ []) :
    Makes (plannedSteps tokens (namedFields sample) kind) (sample :: rest)
      (plannedColumns tokens (namedFields sample) kind) := by
  have distinct := namesDistinct_namedFields (wellFormed sample List.mem_cons_self)
  have named := named_namedFields sample
  cases kind with
  | grouped => exact plannedSteps_make_grouped wellFormed tokens
  | mentioned =>
      refine makes_selectStep (distinct.mentioned tokens).distinct ?_
      intro name isMentioned
      exact named name (mentioned_subset _ tokens isMentioned)
  | everything =>
      rw [plannedSteps] at planned ⊢
      split at planned
      · exact absurd rfl planned
      · rename_i nonempty
        rw [if_neg nonempty]
        exact makes_selectStep distinct.distinct named

theorem nodup_plannedColumns
    (wellFormed : sample.WellFormed) (tokens : List String) (kind : Kind) :
    (plannedColumns tokens (namedFields sample) kind).Nodup := by
  have named := namesDistinct_namedFields wellFormed
  cases kind with
  | grouped => exact nodup_groupedColumns _ _ _
  | mentioned => exact (named.mentioned tokens).distinct
  | everything => exact named.distinct

/--
A template makes a valid plan for every goal, pointer and sample row. On rows that begin with the sample
row the plan gives rows with exactly the planned columns, all different and in their order, and there is
nothing to warn about.
-/
theorem run_rows_have_planned_columns
    (goal recordPath : String) {sample : Row} {rest : List Row}
    (wellFormed : ∀ row ∈ sample :: rest, row.WellFormed) :
    let found := run goal recordPath sample
    let columns := plannedColumns (Goal.tokens goal) (namedFields sample) found.kind
    found.plan.check = .ok [] ∧ columns.Nodup ∧
      (found.plan.steps ≠ [] →
        ∃ table, found.plan.runSteps (sample :: rest) = .ok table ∧ table.warnings = [] ∧
          ∀ row ∈ table.rows, row.keys = columns) := by
  have sampleWellFormed := wellFormed sample List.mem_cons_self
  have valid := run_plan_valid goal recordPath sampleWellFormed
  refine ⟨(Plan.check_eq_nil_iff _).2 valid, nodup_plannedColumns sampleWellFormed _ _, ?_⟩
  have made := (run_planned goal recordPath sample).plan
  intro planned
  rw [made] at planned
  rcases plannedSteps_make wellFormed _ _ planned with ⟨rows, ran, keys⟩
  refine ⟨⟨rows, []⟩, Outcome.bind_eq_ok_iff.2 ⟨(⟨rows, none⟩, []), ?_, rfl⟩, rfl, keys⟩
  rw [made]
  exact ran

/-- The rows are grouped by `total`, so that the total gets a longer name. -/
theorem run_rows_have_planned_columns_renamed_total :
    let sample : Row := [("total", .str "x"), ("a/b~c", .ofNat 3)]
    let rest : List Row := [[("total", .str "y"), ("a/b~c", .ofNat 4)]]
    let found := run "total" "/" sample
    (∀ row ∈ sample :: rest, row.WellFormed) ∧ found.plan.check = .ok [] ∧
      ∃ table, found.plan.runSteps (sample :: rest) = .ok table ∧ table.warnings = [] ∧
        ∀ row ∈ table.rows, row.keys = ["total", "total_a/b~c"] := by
  intro sample rest found
  have wellFormed : ∀ row ∈ sample :: rest, row.WellFormed := by
    simp [sample, rest, Row.WellFormed, Value.ofNat, or_imp, forall_and]
  have planned : found.plan.steps ≠ [] := by
    rw [← List.isEmpty_eq_false_iff]
    decide +kernel
  have columns :
      plannedColumns (Goal.tokens "total") (namedFields sample) found.kind =
        ["total", "total_a/b~c"] := by
    decide +kernel
  rcases run_rows_have_planned_columns "total" "/" wellFormed with ⟨accepted, _, runs⟩
  rw [columns] at runs
  exact ⟨wellFormed, accepted, runs planned⟩

end Template

end RowPlan
