import Mathlib.Data.List.Perm.Subperm
import RowPlan.Proofs.Execution.Grouping

/-!
# Columns of grouped rows

The row of a group is written from its key values and from its metrics, one after the other under their
names. The names come from three places: the last segments of the fields that the keys stand for, the
keys themselves where there is no segment, and the names of the metrics. The plan rules only ask that
the names of the metrics differ from each other.

So a grouped row keeps all keys and all metrics exactly when the other names differ as well. Then rows of
different groups differ in a key column. Otherwise columns are lost, and rows of different groups may
come out equal.
-/

namespace RowPlan

/-- A row has some columns, each of them in a place of its own. -/
def Row.HasColumns (row : Row) (columns : List (String × Value)) : Prop := columns.Subperm row

/-- What is written into an empty row is all there exactly when no name is repeated. -/
theorem Row.hasColumns_setAll_iff (fields : List (String × Value)) :
    (Row.setAll [] fields).HasColumns fields ↔ (fields.map (·.1)).Nodup := by
  constructor
  · rintro ⟨kept, sameColumns, inRow⟩
    -- A written row repeats no name, so what is all there repeats none either.
    have noKeys : (Row.keys []).Nodup := List.nodup_nil
    have distinct : ((Row.setAll [] fields).map (·.1)).Nodup := Row.nodup_keys_setAll noKeys fields
    have keptDistinct : (kept.map (·.1)).Nodup := (inRow.map (·.1)).nodup distinct
    exact (sameColumns.map (·.1)).nodup_iff.1 keptDistinct
  · intro distinct
    have written : Row.setAll [] fields = fields := Row.setAll_of_nodup distinct
    rw [Row.HasColumns, written]

/-- What stands beside an item of the second of two related lists. -/
theorem exists_related_of_getElem?
    {α β : Type} {related : α → β → Prop} {left : List α} {right : List β}
    (each : List.Forall₂ related left right) {i : Nat} {b : β} (found : right[i]? = some b) :
    ∃ a, left[i]? = some a ∧ related a b := by
  induction each generalizing i with
  | nil => cases found
  | cons here _ later =>
      cases i with
      | zero =>
          cases found
          exact ⟨_, rfl, here⟩
      | succ i => exact later found

namespace StepResult

/-- The columns that the row of a group stands for: the key values of the first row of the group, and
the values of the metrics. -/
def groupedFields (columns : List (String × Field.Resolution)) (metrics : List MetricSpec)
    (first : Row) (values : List Value) : List (String × Value) :=
  (columns.map fun column => (column.1, Field.readOrNull first column.2)) ++
    (metrics.map (·.target)).zip values

/-- The key columns have different names, and no metric has the name of one. -/
structure NamesApart (columns : List (String × Field.Resolution)) (metrics : List MetricSpec) :
    Prop where
  keys : (columns.map (·.1)).Nodup
  metrics : ∀ metric ∈ metrics, metric.target ∉ columns.map (·.1)

variable {columns : List (String × Field.Resolution)} {metrics : List MetricSpec}

theorem nodup_groupedFields_iff
    (targets : (metrics.map (·.target)).Nodup) (first : Row) {values : List Value}
    (sameLength : metrics.length = values.length) :
    ((groupedFields columns metrics first values).map (·.1)).Nodup ↔
      NamesApart columns metrics := by
  have names :
      (groupedFields columns metrics first values).map (·.1) =
        columns.map (·.1) ++ metrics.map (·.target) := by
    rw [groupedFields, List.map_append, List.map_map, List.map_fst_zip (by simp [sameLength])]
    rfl
  rw [names, List.nodup_append]
  constructor
  · rintro ⟨keysDistinct, _, across⟩
    refine ⟨keysDistinct, ?_⟩
    intro metric member isKey
    exact across _ isKey _ (List.mem_map_of_mem member) rfl
  · rintro ⟨keysDistinct, across⟩
    refine ⟨keysDistinct, targets, ?_⟩
    rintro name isKey target isTarget rfl
    rcases List.mem_map.1 isTarget with ⟨metric, member, rfl⟩
    exact across metric member isKey

/-- The row of a group is written from its columns. -/
theorem groupRow_of_group
    {rows : List Row} (wellFormed : ∀ row ∈ rows, row.WellFormed) {sample : Row} {group : Group}
    (member : group ∈ groupRows columns rows) {row : Row}
    (computed : groupRow metrics sample group = .ok row) :
    ∃ first rest values,
      group.rows = first :: rest ∧
      List.Forall₂ (fun metric value => metricValue metric sample group.rows = .ok value)
        metrics values ∧
      row = Row.setAll [] (groupedFields columns metrics first values) := by
  rcases groupRows_keyed columns wellFormed member with ⟨first, rest, startsWith, hasKey⟩
  rcases groupRow_eq_ok_iff.1 computed with ⟨values, eachMetric, written⟩
  refine ⟨first, rest, values, startsWith, eachMetric, ?_⟩
  rw [written, hasKey, groupedFields, Row.setAll_append]
  rfl

/-- The first rows of two groups give different values for some key. -/
theorem groupRows_differ
    {rows : List Row} (wellFormed : ∀ row ∈ rows, row.WellFormed) {i j : Nat} {left right : Group}
    (atI : (groupRows columns rows)[i]? = some left)
    (atJ : (groupRows columns rows)[j]? = some right) (different : i ≠ j)
    {first second : Row} (inLeft : first ∈ left.rows) (inRight : second ∈ right.rows) :
    ∃ column ∈ columns,
      Value.equal (Field.readOrNull first column.2) (Field.readOrNull second column.2) = false := by
  have parts := groupRows_partitions columns wellFormed
  have disagree : ¬ Row.AgreeOn (columns.map (·.2)) first second := by
    intro agree
    refine different ?_
    refine (parts.same_group_iff (Row.agreeOn_equivalence _) wellFormed ?_ ?_ inLeft inRight).2 agree
    · rw [List.getElem?_map, atI, Option.map_some]
    · rw [List.getElem?_map, atJ, Option.map_some]
  rw [Row.AgreeOn, List.forall_mem_map] at disagree
  simpa only [not_forall, exists_prop, Bool.not_eq_true] using disagree

/-- Where the names are apart, the row of a group has the key values of its first row. -/
theorem find?_groupedFields
    {first : Row} {values : List Value}
    (distinct : ((groupedFields columns metrics first values).map (·.1)).Nodup)
    {column : String × Field.Resolution} (isKey : column ∈ columns) :
    (Row.setAll [] (groupedFields columns metrics first values)).find? column.1 =
      some (Field.readOrNull first column.2) := by
  refine Row.find?_setAll_of_mem distinct (List.mem_append_left _ ?_) []
  exact List.mem_map.2 ⟨column, isKey, rfl⟩

end StepResult

open StepResult

/--
The rows of a grouping and its aggregation keep every key and every metric exactly when their names are
apart, and then rows of different groups differ in a key column.
-/
theorem Plan.grouped_rows_keep_columns_iff
    {plan : Plan} (accepted : plan.check = .ok []) (before after : List Step)
    {keys : List String} {metrics : List MetricSpec}
    (grouping : plan.steps = before ++ .groupBy keys :: .aggregate metrics :: after)
    (state : State) (wellFormed : ∀ row ∈ state.rows, row.WellFormed) :
    let columns := keyColumns keys (Records.sample state.rows)
    ∃ groups notes rows more,
      (Step.groupBy keys).run state = .ok ({ state with groups := some groups }, notes) ∧
      (Step.aggregate metrics).run { state with groups := some groups } =
        .ok (⟨rows, none⟩, more) ∧
      List.Forall₂
        (fun group row => ∃ first rest values,
          group.rows = first :: rest ∧
          List.Forall₂
            (fun metric value =>
              metricValue metric (Records.sample state.rows) group.rows = .ok value)
            metrics values ∧
          (Row.HasColumns row (groupedFields columns metrics first values) ↔
            NamesApart columns metrics))
        groups rows ∧
      (NamesApart columns metrics →
        ∀ (i j : Nat) (a b : Row), rows[i]? = some a → rows[j]? = some b → i ≠ j →
          ∃ name ∈ columns.map (·.1), ∃ v w,
            a.find? name = some v ∧ b.find? name = some w ∧ Value.equal v w = false) := by
  intro columns
  have valid : plan.Valid := plan.check_eq_nil_iff.1 accepted
  have isStep : Step.aggregate metrics ∈ plan.steps := by simp [grouping]
  rcases valid.steps.step isStep with ⟨_, _, _, metricsValid, targets⟩
  have computed :
      ∃ rows, (groupRows columns state.rows).mapM
        (groupRow metrics (Records.sample state.rows)) = .ok rows :=
    Outcome.mapM_succeeds fun group _ =>
      groupRow_succeeds metricsValid (Records.sample state.rows) group
  rcases computed with ⟨rows, computed⟩
  have eachGroup := Outcome.mapM_eq_ok_iff.1 computed
  rcases run_aggregate ⟨state.rows, some (groupRows columns state.rows)⟩ eachGroup with
    ⟨more, ran⟩
  have eachRow := (List.forall₂_and_left _ _).2 ⟨fun _ member => member, eachGroup⟩
  refine ⟨groupRows columns state.rows, _, rows, more, rfl, ran, eachRow.imp ?_, ?_⟩
  · rintro group row ⟨member, ofGroup⟩
    rcases groupRow_of_group wellFormed member ofGroup with
      ⟨first, rest, values, startsWith, eachMetric, rfl⟩
    refine ⟨first, rest, values, startsWith, eachMetric, ?_⟩
    rw [Row.hasColumns_setAll_iff, nodup_groupedFields_iff targets first eachMetric.length_eq]
  · intro apart i j a b atI atJ different
    rcases exists_related_of_getElem? eachRow atI with ⟨left, leftAtI, isLeft, ofLeft⟩
    rcases exists_related_of_getElem? eachRow atJ with ⟨right, rightAtJ, isRight, ofRight⟩
    rcases groupRow_of_group wellFormed isLeft ofLeft with
      ⟨first, _, firstValues, leftStarts, firstMetrics, rfl⟩
    rcases groupRow_of_group wellFormed isRight ofRight with
      ⟨second, _, secondValues, rightStarts, secondMetrics, rfl⟩
    rcases groupRows_differ wellFormed leftAtI rightAtJ different
      (leftStarts ▸ List.mem_cons_self) (rightStarts ▸ List.mem_cons_self) with
      ⟨column, isKey, differ⟩
    have firstDistinct := (nodup_groupedFields_iff targets first firstMetrics.length_eq).2 apart
    have secondDistinct := (nodup_groupedFields_iff targets second secondMetrics.length_eq).2 apart
    exact ⟨column.1, List.mem_map_of_mem isKey, _, _, find?_groupedFields firstDistinct isKey,
      find?_groupedFields secondDistinct isKey, differ⟩

/-- A count beside its key: the rows of the two groups have both columns and differ in the key. -/
theorem Plan.grouped_rows_keep_columns_counted :
    Plan.check ⟨"1.0", "/", [.groupBy ["k"], .aggregate [⟨"n", "count", none, none⟩]]⟩ = .ok [] ∧
    ∃ groups notes rows more,
      (Step.groupBy ["k"]).run ⟨[[("k", .ofNat 1)], [("k", .ofNat 2)]], none⟩ =
        .ok (⟨[[("k", .ofNat 1)], [("k", .ofNat 2)]], some groups⟩, notes) ∧
      (Step.aggregate [⟨"n", "count", none, none⟩]).run
          ⟨[[("k", .ofNat 1)], [("k", .ofNat 2)]], some groups⟩ =
        .ok (⟨rows, none⟩, more) ∧
      rows = [[("k", .ofNat 1), ("n", .ofNat 1)], [("k", .ofNat 2), ("n", .ofNat 1)]] ∧
      ∀ (i j : Nat) (a b : Row), rows[i]? = some a → rows[j]? = some b → i ≠ j →
        ∃ name ∈ ["k"], ∃ v w,
          a.find? name = some v ∧ b.find? name = some w ∧ Value.equal v w = false := by
  have accepted :
      Plan.check ⟨"1.0", "/", [.groupBy ["k"], .aggregate [⟨"n", "count", none, none⟩]]⟩ =
        .ok [] := by rfl
  have wellFormed (row : Row) (member : row ∈ [[("k", .ofNat 1)], [("k", .ofNat 2)]]) :
      row.WellFormed := by
    revert row
    simp [Row.WellFormed, Value.ofNat]
  have apart :
      NamesApart (keyColumns ["k"] [("k", .ofNat 1)]) [⟨"n", "count", none, none⟩] := by
    constructor <;> decide
  rcases Plan.grouped_rows_keep_columns_iff accepted [] [] rfl
      ⟨[[("k", .ofNat 1)], [("k", .ofNat 2)]], none⟩ wellFormed with
    ⟨groups, notes, rows, more, grouped, aggregated, _, differ⟩
  refine ⟨accepted, groups, notes, rows, more, grouped, aggregated, ?_, differ apart⟩
  cases grouped
  cases aggregated
  rfl

/--
Accepted plans lose columns: a metric takes the place of the key of its name, and two keys that end in
the same segment share a column. Either way two groups give the same row.
-/
theorem Plan.grouped_columns_lost :
    (Plan.check ⟨"1.0", "/", [.groupBy ["category"],
        .aggregate [⟨"category", "count", none, none⟩]]⟩ = .ok [] ∧
      Plan.runSteps ⟨"1.0", "/", [.groupBy ["category"],
          .aggregate [⟨"category", "count", none, none⟩]]⟩
        [[("category", .str "A")], [("category", .str "B")]] =
      .ok ⟨[[("category", .ofNat 1)], [("category", .ofNat 1)]], []⟩) ∧
    Plan.check ⟨"1.0", "/", [.groupBy ["/a/x", "/b/x"],
        .aggregate [⟨"n", "count", none, none⟩]]⟩ = .ok [] ∧
      (Field.resolve "/a/x" [("a", .obj [("x", .ofNat 1)]), ("b", .obj [("x", .ofNat 2)])]).path ≠
        (Field.resolve "/b/x" [("a", .obj [("x", .ofNat 1)]), ("b", .obj [("x", .ofNat 2)])]).path ∧
      Plan.runSteps ⟨"1.0", "/", [.groupBy ["/a/x", "/b/x"],
          .aggregate [⟨"n", "count", none, none⟩]]⟩
        [[("a", .obj [("x", .ofNat 1)]), ("b", .obj [("x", .ofNat 2)])],
          [("a", .obj [("x", .ofNat 3)]), ("b", .obj [("x", .ofNat 2)])]] =
      .ok ⟨[[("x", .ofNat 2), ("n", .ofNat 1)], [("x", .ofNat 2), ("n", .ofNat 1)]], []⟩ := by
  exact ⟨⟨by rfl, by rfl⟩, by rfl, by decide, by rfl⟩

end RowPlan
