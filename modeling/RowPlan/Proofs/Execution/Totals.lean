import Mathlib.Algebra.BigOperators.Group.List.Basic
import Mathlib.Algebra.Order.Group.Int
import Mathlib.Algebra.Ring.Int.Defs
import Mathlib.Data.List.ReduceOption
import RowPlan.Proofs.Execution.Grouping

/-!
# Totals of groups

A sum, a count, a minimum or a maximum over all rows is made up of those over the groups of the rows.
A metric reads every row in the same way, whichever group it is computed for, and the groups of a
grouping together are the rows. With integers alone all of these functions are exact, so that neither
the way in which the rows are grouped nor the order in which they are read makes a difference.
-/

namespace RowPlan

/-! ## Joining integers -/

namespace Metric

/-- Some integers joined by an operation, from left to right. -/
def joined? (op : Int → Int → Int) : List Int → Option Int
  | [] => none
  | first :: rest => some (rest.foldl op first)

section Joined

variable (op : Int → Int → Int) [Std.Associative op]

theorem joined?_cons (first : Int) (rest : List Int) :
    joined? op (first :: rest) = Option.merge op (some first) (joined? op rest) := by
  cases rest with
  | nil => rfl
  | cons second others => exact congrArg some List.foldl_assoc

theorem joined?_append (left right : List Int) :
    joined? op (left ++ right) = Option.merge op (joined? op left) (joined? op right) := by
  induction left with
  | nil => simp [joined?]
  | cons first rest later =>
      rw [List.cons_append, joined?_cons, later, joined?_cons]
      exact ((Option.associative_merge op).assoc _ _ _).symm

/-- Integers may be joined part by part; parts without any are left out. -/
theorem joined?_flatten (parts : List (List Int)) :
    joined? op parts.flatten = joined? op (parts.map (joined? op)).reduceOption := by
  induction parts with
  | nil => rfl
  | cons part others later =>
      rw [List.flatten_cons, joined?_append, later, List.map_cons]
      cases joined? op part with
      | none => simp
      | some n => rw [List.reduceOption_cons_of_some, joined?_cons]

/-- The order in which integers are joined makes no difference. -/
theorem joined?_perm [Std.Commutative op] {left right : List Int} (perm : left.Perm right) :
    joined? op left = joined? op right := by
  induction perm with
  | nil => rfl
  | cons first _ same => rw [joined?_cons, joined?_cons, same]
  | swap first second rest =>
      rw [joined?_cons, joined?_cons, joined?_cons, joined?_cons,
        ← (Option.associative_merge op).assoc,
        (Option.commutative_merge op).comm (some second),
        (Option.associative_merge op).assoc]
  | trans _ _ first second => exact first.trans second

end Joined

end Metric

/-! ## Numbers that are integers -/

theorem Number.lt_int (m n : Int) : (Number.int m).lt (.int n) = decide (m < n) := by
  have scaled : m <<< (1074 : Nat) < n <<< (1074 : Nat) ↔ m < n := by
    rw [Int.shiftLeft_eq, Int.shiftLeft_eq]
    exact Int.mul_lt_mul_right (Int.pow_pos (by decide))
  exact decide_eq_decide.2 scaled

namespace Metric

/-- The integer that a value stands for. -/
def integer? (value : Option Value) : Option Int :=
  match value.bind Value.toNumber? with
  | some (.int n) => some n
  | _ => none

/-- Values that stand for no numbers but integers. -/
def Integral (values : List (Option Value)) : Prop :=
  ∀ number ∈ numbers values, ∃ n, number = .int n

/-- An integer as a value, null without one. -/
def ofInteger (n : Option Int) : Value := orNull (n.map .int)

theorem Integral.of_subset
    {part values : List (Option Value)} (integral : Integral values) (within : part ⊆ values) :
    Integral part := by
  intro number member
  rcases List.mem_filterMap.1 member with ⟨value, isPart, stands⟩
  exact integral number (List.mem_filterMap.2 ⟨value, within isPart, stands⟩)

theorem Integral.numbers_eq {values : List (Option Value)} (integral : Integral values) :
    numbers values = (values.filterMap integer?).map .int := by
  rw [numbers, List.map_filterMap]
  refine List.filterMap_congr fun value member => ?_
  rw [integer?]
  cases stands : value.bind Value.toNumber? with
  | none => rfl
  | some number =>
      rcases integral number (List.mem_filterMap.2 ⟨value, member, stands⟩) with ⟨n, rfl⟩
      rfl

theorem sum?_integers (integers : List Int) :
    sum? (integers.map .int) = some (.int integers.sum) := by
  have running (start : Int) :
      (integers.map Number.int).foldlM (fun total item => total.add? item) (Number.int start) =
        some (.int (start + integers.sum)) := by
    induction integers generalizing start with
    | nil => simp
    | cons first rest later =>
        rw [List.sum_cons, ← Int.add_assoc]
        exact later (start + first)
  rw [sum?, running, Int.zero_add]

/-- Choosing between numbers step by step joins integers by the choice between them. -/
theorem foldl_integers
    {choose : Number → Number → Number} {op : Int → Int → Int}
    (agrees : ∀ m n, choose (.int m) (.int n) = .int (op m n)) (first : Int) (rest : List Int) :
    (rest.map Number.int).foldl choose (.int first) = .int (rest.foldl op first) := by
  rw [List.foldl_map]
  exact List.foldl_hom Number.int agrees

theorem least?_integers (integers : List Int) :
    least? (integers.map .int) = (joined? min integers).map .int := by
  cases integers with
  | nil => rfl
  | cons first rest =>
      refine congrArg some (foldl_integers (fun m n => ?_) first rest)
      simp only [Number.lt_int, decide_eq_true_eq]
      rw [min_comm, min_def_lt, apply_ite Number.int]

theorem greatest?_integers (integers : List Int) :
    greatest? (integers.map .int) = (joined? max integers).map .int := by
  cases integers with
  | nil => rfl
  | cons first rest =>
      refine congrArg some (foldl_integers (fun m n => ?_) first rest)
      simp only [Number.lt_int, decide_eq_true_eq]
      rw [max_def_lt, apply_ite Number.int]

/-! ## Functions of integers -/

/-- What an aggregate function comes to on integers, in a group of `count` rows. -/
def total (function : String) (integers : List Int) (count : Nat) : Value :=
  match function with
  | "count" => .ofNat count
  | "sum" => .num (.int integers.sum)
  | "avg" =>
    orNull (if integers.isEmpty then none else (Number.int integers.sum).div? (.int integers.length))
  | "min" => ofInteger integers.min?
  | _ => ofInteger integers.max?

theorem joined?_min : joined? min = List.min? := by
  funext integers
  cases integers <;> rfl

theorem joined?_max : joined? max = List.max? := by
  funext integers
  cases integers <;> rfl

/-- On values that stand for integers only, every aggregate function gives its total. -/
theorem Integral.compute_eq
    {function : String} (listed : function ∈ aggregateFunctions)
    {values : List (Option Value)} (integral : Integral values) (count : Nat) :
    compute function values count = .ok (total function (values.filterMap integer?) count) := by
  generalize integers : values.filterMap integer? = found
  have items : numbers values = found.map .int := by rw [integral.numbers_eq, integers]
  simp only [aggregateFunctions, List.mem_cons, List.not_mem_nil, or_false] at listed
  rcases listed with rfl | rfl | rfl | rfl | rfl
  · simp [compute, total, items, sum?_integers, orNull]
  · rfl
  · simp [compute, total, items, mean?, sum?_integers]
  · simp [compute, total, items, least?_integers, joined?_min, ofInteger]
  · simp [compute, total, items, greatest?_integers, joined?_max, ofInteger]

/-- The order of the integers makes no difference to a total. -/
theorem total_perm
    (function : String) {left right : List Int} (perm : left.Perm right) (count : Nat) :
    total function left count = total function right count := by
  simp only [total, perm.sum_eq, perm.isEmpty_eq, perm.length_eq, ← joined?_min, ← joined?_max,
    joined?_perm _ perm]

theorem least?_eq_none_iff (items : List Number) : least? items = none ↔ items = [] := by
  cases items <;> simp [least?]

theorem greatest?_eq_none_iff (items : List Number) : greatest? items = none ↔ items = [] := by
  cases items <;> simp [greatest?]

/-- A least or a greatest number is null exactly if there are no numbers. -/
theorem compute_eq_null_iff
    {function : String} (extreme : function ∈ ["min", "max"])
    {values : List (Option Value)} {count : Nat} {result : Value}
    (computed : compute function values count = .ok result) :
    result = .null ↔ ∀ value ∈ values, value.bind Value.toNumber? = none := by
  rw [← List.filterMap_eq_nil_iff]
  simp only [List.mem_cons, List.not_mem_nil, or_false] at extreme
  rcases extreme with rfl | rfl
  · cases computed
    rw [orNull_eq_null_iff, least?_eq_none_iff, numbers]
  · cases computed
    rw [orNull_eq_null_iff, greatest?_eq_none_iff, numbers]

/-- How the values of an aggregate function for the parts of some rows make up its value for all of
them. -/
inductive Combines : String → List Value → Value → Prop where
  | count (counts : List Nat) : Combines "count" (counts.map .ofNat) (.ofNat counts.sum)
  | sum (sums : List Int) : Combines "sum" (sums.map fun n => .num (.int n)) (.num (.int sums.sum))
  | min (minima : List (Option Int)) :
      Combines "min" (minima.map ofInteger) (ofInteger minima.reduceOption.min?)
  | max (maxima : List (Option Int)) :
      Combines "max" (maxima.map ofInteger) (ofInteger maxima.reduceOption.max?)

/-- The totals of the parts of a list combine to the total of the list. -/
theorem combines_total {α : Type}
    {function : String} (listed : function ∈ aggregateFunctions) (notMean : function ≠ "avg")
    (read : α → Option Int) {parts : List (List α)} {items : List α}
    (complete : parts.flatten.Perm items) :
    Combines function (parts.map fun part => total function (part.filterMap read) part.length)
      (total function (items.filterMap read) items.length) := by
  have integers : (parts.map (·.filterMap read)).flatten.Perm (items.filterMap read) := by
    rw [← List.filterMap_flatten]
    exact complete.filterMap read
  have joined (op : Int → Int → Int) [Std.Associative op] [Std.Commutative op] :
      joined? op (items.filterMap read) =
        joined? op ((parts.map (·.filterMap read)).map (joined? op)).reduceOption := by
    rw [← joined?_flatten, joined?_perm op integers]
  simp only [aggregateFunctions, List.mem_cons, List.not_mem_nil, or_false] at listed
  rcases listed with rfl | rfl | rfl | rfl | rfl
  · have combined := Combines.sum ((parts.map (·.filterMap read)).map List.sum)
    rw [← List.sum_flatten, integers.sum_eq, List.map_map, List.map_map] at combined
    exact combined
  · have combined := Combines.count (parts.map List.length)
    rw [← List.length_flatten, complete.length_eq, List.map_map] at combined
    exact combined
  · exact absurd rfl notMean
  · have combined := Combines.min ((parts.map (·.filterMap read)).map List.min?)
    rw [← joined?_min, ← joined min, List.map_map, List.map_map, joined?_min] at combined
    exact combined
  · have combined := Combines.max ((parts.map (·.filterMap read)).map List.max?)
    rw [← joined?_max, ← joined max, List.map_map, List.map_map, joined?_max] at combined
    exact combined

end Metric

namespace StepResult

/-! ## Metrics of groups -/

/-- How a metric reads a row. -/
def metricReading (metric : MetricSpec) (sample : Row) : Except StepError (Row → Option Value) :=
  match given? metric.expr with
  | some text => (parseExpr text).map fun expr row => some (expr.evalOrNull row)
  | none =>
    match metric.field with
    | some field => .ok fun row => Field.read row (Field.resolve field sample)
    | none => .error .noMetricField

/-- A metric reads one row after the other, each in the same way. -/
theorem metricValues_eq (metric : MetricSpec) (sample : Row) (rows : List Row) :
    metricValues metric sample rows =
      (metricReading metric sample).map fun read => rows.map read := by
  unfold metricValues metricReading
  cases given? metric.expr with
  | some text =>
    dsimp only
    cases parseExpr text <;> rfl
  | none => cases metric.field <;> rfl

theorem metricValue_of_values
    {metric : MetricSpec} (reads : metric.function ≠ "count") {sample : Row} {rows : List Row}
    {values : List (Option Value)} (valuesOfRows : metricValues metric sample rows = .ok values) :
    metricValue metric sample rows =
      (Metric.compute metric.function values rows.length).mapError .unknownFunction := by
  rw [metricValue, if_neg reads, valuesOfRows]
  rfl

/-- A metric whose values for some rows stand for integers, as far as they stand for numbers. A count
reads no values. -/
def IntegralOn (metric : MetricSpec) (rows : List Row) : Prop :=
  metric.function = "count" ∨
    ∃ values,
      metricValues metric (Records.sample rows) rows = .ok values ∧ Metric.Integral values

/-- The value of a metric for any of the rows is the total of the integers that it reads in them. -/
theorem IntegralOn.metricValue_eq
    {metric : MetricSpec} (listed : metric.function ∈ aggregateFunctions)
    {rows : List Row} (integral : IntegralOn metric rows) :
    ∃ read : Row → Option Int, ∀ part ⊆ rows,
      metricValue metric (Records.sample rows) part =
        .ok (Metric.total metric.function (part.filterMap read) part.length) := by
  by_cases counts : metric.function = "count"
  · refine ⟨fun _ => none, fun part _ => ?_⟩
    rw [metricValue_count counts, counts]
    rfl
  · rcases integral.resolve_left counts with ⟨values, valuesOfRows, integral⟩
    rw [metricValues_eq] at valuesOfRows
    rcases Outcome.map_eq_ok_iff.1 valuesOfRows with ⟨read, reading, rfl⟩
    refine ⟨fun row => Metric.integer? (read row), fun part within => ?_⟩
    have valuesOfPart : metricValues metric (Records.sample rows) part = .ok (part.map read) := by
      rw [metricValues_eq, reading]
      rfl
    have partIntegral := integral.of_subset (List.map_subset read within)
    rw [metricValue_of_values counts valuesOfPart, partIntegral.compute_eq listed,
      List.filterMap_map]
    rfl

/-- The order of the rows makes no difference to the value of a metric. -/
theorem IntegralOn.metricValue_perm
    {metric : MetricSpec} (listed : metric.function ∈ aggregateFunctions)
    {rows reordered : List Row} (integral : IntegralOn metric rows) (perm : reordered.Perm rows) :
    metricValue metric (Records.sample rows) reordered =
      metricValue metric (Records.sample rows) rows := by
  rcases integral.metricValue_eq listed with ⟨read, valueOf⟩
  rw [valueOf reordered perm.subset, valueOf rows (List.Subset.refl rows),
    Metric.total_perm _ (perm.filterMap read), perm.length_eq]

theorem metricValue_eq_null_iff
    {metric : MetricSpec} (extreme : metric.function ∈ ["min", "max"])
    {sample : Row} {rows : List Row} {values : List (Option Value)} {result : Value}
    (valuesOfRows : metricValues metric sample rows = .ok values)
    (computed : metricValue metric sample rows = .ok result) :
    result = .null ↔ ∀ value ∈ values, value.bind Value.toNumber? = none := by
  have reads : metric.function ≠ "count" := by
    intro counts
    rw [counts] at extreme
    exact absurd extreme (by decide)
  rw [metricValue_of_values reads valuesOfRows, Outcome.mapError_eq_ok_iff] at computed
  exact Metric.compute_eq_null_iff extreme computed

/-! ## Rows of groups -/

theorem addToGroups_complete
    (names : List String) (values : List Value) (row : Row) (groups : List (List Value × Group)) :
    ((addToGroups names values row groups).map (·.2.rows)).flatten.Perm
      ((groups.map (·.2.rows)).flatten ++ [row]) := by
  rcases addToGroups_cases names values row groups with
    ⟨before, key, group, after, rfl, _, added⟩ | ⟨_, added⟩
  · rw [added]
    simp only [List.map_append, List.map_cons, List.flatten_append, List.flatten_cons,
      List.append_assoc]
    exact ((List.perm_append_comm).append_left group.rows).append_left _
  · simp [added]

/-- The groups of some rows together are the rows. -/
theorem groupRows_complete (columns : List (String × Field.Resolution)) (rows : List Row) :
    ((groupRows columns rows).map Group.rows).flatten.Perm rows := by
  rw [groupRows, List.map_map]
  induction rows using List.reverseRecOn with
  | nil => exact .nil
  | append_singleton rows row earlier =>
      rw [List.foldl_concat]
      exact (addToGroups_complete _ _ row _).trans (earlier.append_right [row])

/-- The row of a group is its key and the value of the metric. -/
theorem groupRow_single
    {metric : MetricSpec} {sample : Row} {group : Group} {value : Value}
    (computed : metricValue metric sample group.rows = .ok value) :
    groupRow [metric] sample group = .ok (group.key.set metric.target value) :=
  groupRow_eq_ok_iff.2 ⟨[value], .cons computed .nil, rfl⟩

/-- All rows together may be aggregated in any order that leaves the first one in its place and the
value of the metric as it is. -/
theorem run_aggregate_single
    {metric : MetricSpec} {first : Row} {left right : List Row}
    (sameValue : metricValue metric first (first :: left) = metricValue metric first (first :: right)) :
    (Step.aggregate [metric]).run ⟨first :: left, none⟩ =
      (Step.aggregate [metric]).run ⟨first :: right, none⟩ := by
  simp only [Step.run, StepResult.aggregate, groupRow, Records.sample, List.headD_cons,
    Option.getD_none, List.mapM_cons, List.foldlM_cons, sameValue]
  rfl

end StepResult

open StepResult

/--
A sum, a count, a minimum or a maximum over all rows is made up of those over the groups of a grouping:
the sums and the counts add up, and the least of the minima and the greatest of the maxima are those of
all rows, with groups without numbers left out, and null exactly if no row has a number. What an
aggregation gives for all rows does not depend on the order of the rows after the first. All this is so
for metrics that come upon no numbers but integers.
-/
theorem Step.aggregate_combines_groups
    (keys : List String) (rows : List Row) {metric : MetricSpec}
    (listed : metric.function ∈ aggregateFunctions) (integral : IntegralOn metric rows) :
    ∃ (groups : List Group) (value : List Row → Value) (notes more others : List Field.Note),
      (Step.groupBy keys).run ⟨rows, none⟩ = .ok (⟨rows, some groups⟩, notes) ∧
      (Step.aggregate [metric]).run ⟨rows, some groups⟩ =
        .ok (⟨groups.map fun group => group.key.set metric.target (value group.rows), none⟩, more) ∧
      (Step.aggregate [metric]).run ⟨rows, none⟩ =
        .ok (⟨[[(metric.target, value rows)]], none⟩, others) ∧
      (metric.function ≠ "avg" →
        Metric.Combines metric.function (groups.map fun group => value group.rows) (value rows)) ∧
      (metric.function ∈ ["min", "max"] →
        ∀ values, metricValues metric (Records.sample rows) rows = .ok values →
          (value rows = .null ↔ ∀ found ∈ values, found.bind Value.toNumber? = none)) ∧
      ∀ first rest reordered, rows = first :: rest → reordered.Perm rest →
        (Step.aggregate [metric]).run ⟨first :: reordered, none⟩ =
          (Step.aggregate [metric]).run ⟨rows, none⟩ := by
  rcases integral.metricValue_eq listed with ⟨read, valueOf⟩
  let groups := groupRows (keyColumns keys (Records.sample rows)) rows
  let value (part : List Row) : Value :=
    Metric.total metric.function (part.filterMap read) part.length
  have complete : (groups.map Group.rows).flatten.Perm rows := groupRows_complete _ rows
  have within (group : Group) (member : group ∈ groups) : group.rows ⊆ rows := by
    intro row inGroup
    refine complete.subset (List.mem_flatten.2 ⟨group.rows, List.mem_map_of_mem member, inGroup⟩)
  have computed :
      List.Forall₂ (fun group row => groupRow [metric] (Records.sample rows) group = .ok row)
        groups (groups.map fun group => group.key.set metric.target (value group.rows)) := by
    refine List.forall₂_map_right_iff.2 (List.forall₂_same.2 fun group member => ?_)
    exact groupRow_single (valueOf group.rows (within group member))
  have ungrouped :
      List.Forall₂ (fun group row => groupRow [metric] (Records.sample rows) group = .ok row)
        [⟨[], rows⟩] [[(metric.target, value rows)]] :=
    .cons (groupRow_single (valueOf rows (List.Subset.refl rows))) .nil
  rcases run_aggregate ⟨rows, some groups⟩ computed with ⟨more, aggregated⟩
  rcases run_aggregate ⟨rows, none⟩ ungrouped with ⟨others, together⟩
  refine ⟨groups, value, _, more, others, rfl, aggregated, together, ?_, ?_, ?_⟩
  · intro notMean
    have combined := Metric.combines_total listed notMean read complete
    rwa [List.map_map] at combined
  · intro extreme values valuesOfRows
    exact metricValue_eq_null_iff extreme valuesOfRows (valueOf rows (List.Subset.refl rows))
  · rintro first rest reordered rfl perm
    exact run_aggregate_single (integral.metricValue_perm listed (perm.cons first))

set_option maxRecDepth 4000 in
/-- A group without numbers is left out of the least number of all rows, and a numeral counts as a
number. -/
theorem Step.aggregate_combines_groups_numeral :
    let rows : List Row :=
      [[("k", .ofNat 1), ("v", .ofNat 3)], [("k", .ofNat 2)], [("k", .ofNat 1), ("v", .str "2")]]
    let metric : MetricSpec := ⟨"least", "min", some "v", none⟩
    metric.function ∈ aggregateFunctions ∧ IntegralOn metric rows ∧
    ∃ (groups : List Group) (value : List Row → Value) (notes others : List Field.Note),
      (Step.groupBy ["k"]).run ⟨rows, none⟩ = .ok (⟨rows, some groups⟩, notes) ∧
      groups.map Group.rows =
        [[[("k", .ofNat 1), ("v", .ofNat 3)], [("k", .ofNat 1), ("v", .str "2")]],
          [[("k", .ofNat 2)]]] ∧
      (Step.aggregate [metric]).run ⟨rows, none⟩ =
        .ok (⟨[[("least", value rows)]], none⟩, others) ∧
      Metric.Combines "min" (groups.map fun group => value group.rows) (value rows) ∧
      value rows ≠ .null := by
  intro rows metric
  have listed : metric.function ∈ aggregateFunctions := by decide
  have valuesOfRows : metricValues metric (Records.sample rows) rows =
      .ok [some (.ofNat 3), none, some (.str "2")] := by
    subst rows
    rfl
  have items : Metric.numbers [some (.ofNat 3), none, some (.str "2")] = [.int 3, .int 2] := by rfl
  have integral : IntegralOn metric rows := by
    refine .inr ⟨_, valuesOfRows, ?_⟩
    rw [Metric.Integral, items]
    simp
  rcases Step.aggregate_combines_groups ["k"] rows listed integral with
    ⟨groups, value, notes, _, others, grouped, _, together, combined, isNull, _⟩
  refine ⟨listed, integral, groups, value, notes, others, grouped, ?_, together,
    combined (by decide), ?_⟩
  · cases grouped
    subst rows
    rfl
  · intro null
    have noNumbers := (isNull (by decide) _ valuesOfRows).1 null
    rw [← List.filterMap_eq_nil_iff] at noNumbers
    cases items.symm.trans noNumbers

end RowPlan
