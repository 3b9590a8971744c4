import Mathlib.Algebra.GroupWithZero.Nat
import Mathlib.Data.List.Induction
import RowPlan.Proofs.Execution.Partition
import RowPlan.Proofs.Execution.Progress
import RowPlan.Proofs.Value.Equality
import RowPlan.Proofs.Value.Row

/-!
# Grouping partitions the rows

A grouping reads the rows one after the other and puts each into the group of its key values. Groups
are looked up by the key values of their first rows, so what is compared is always a first row with a
new one; that this sorts all rows needs equality of values to be an equivalence, and it is one on
well-formed rows.

The run of a grouping is thus a partition of the rows by the values of the keys, and counting the rows
of its groups counts every row once.
-/

namespace RowPlan

/-- Rows that give equal values for some fields; a field that is not there counts as null. -/
def Row.AgreeOn (fields : List Field.Resolution) (a b : Row) : Prop :=
  ∀ field ∈ fields, Value.equal (Field.readOrNull a field) (Field.readOrNull b field) = true

theorem Row.agreeOn_equivalence (fields : List Field.Resolution) :
    EquivalenceOn Row.WellFormed (Row.AgreeOn fields) where
  refl wellFormed field _ := (Field.wellFormed_readOrNull wellFormed field).equal_self
  symm wellFormed same field member :=
    (Field.wellFormed_readOrNull wellFormed field).equal_symm (same field member)
  trans wellFormed first second field member :=
    (Field.wellFormed_readOrNull wellFormed field).equal_trans (first field member)
      (second field member)

namespace StepResult

/-- The columns that a grouping makes, each with the field that it is read from. -/
def keyColumns (keys : List String) (sample : Row) : List (String × Field.Resolution) :=
  keys.map fun key => (keyName key (Field.resolve key sample), Field.resolve key sample)

/-- The key of the group that a row starts. -/
def keyRow (columns : List (String × Field.Resolution)) (row : Row) : Row :=
  Row.ofPairs (columns.map fun column => (column.1, Field.readOrNull row column.2))

/-- The values by which the group of a row is found. -/
def keyValues (columns : List (String × Field.Resolution)) (row : Row) : List Value :=
  columns.map fun column => Field.readOrNull row column.2

theorem keyRow_eq (columns : List (String × Field.Resolution)) (row : Row) :
    Row.ofPairs ((columns.map (·.1)).zip (keyValues columns row)) = keyRow columns row := by
  rw [keyValues, List.zip_map', keyRow]

theorem sameKeys_iff_agreeOn (columns : List (String × Field.Resolution)) (a b : Row) :
    sameKeys (keyValues columns a) (keyValues columns b) = true ↔
      a.AgreeOn (columns.map (·.2)) b := by
  rw [sameKeys, Value.equalItems_iff_forall₂, keyValues, keyValues, List.forall₂_map_left_iff,
    List.forall₂_map_right_iff, List.forall₂_same, Row.AgreeOn, List.forall_mem_map]

/-! ## One row -/

/-- A row joins the first group of its key values, or else starts a group at the end. -/
theorem addToGroups_cases
    (names : List String) (values : List Value) (row : Row) (groups : List (List Value × Group)) :
    (∃ before key group after,
      groups = before ++ (key, group) :: after ∧ sameKeys key values = true ∧
        addToGroups names values row groups =
          before ++ (key, { group with rows := group.rows ++ [row] }) :: after) ∨
    (∀ entry ∈ groups, sameKeys entry.1 values = false) ∧
      addToGroups names values row groups =
        groups ++ [(values, ⟨Row.ofPairs (names.zip values), [row]⟩)] := by
  induction groups with
  | nil => exact .inr ⟨nofun, rfl⟩
  | cons entry rest later =>
      rcases entry with ⟨key, group⟩
      cases same : sameKeys key values with
      | true =>
          refine .inl ⟨[], key, group, rest, rfl, same, ?_⟩
          rw [addToGroups, if_pos same, List.nil_append]
      | false =>
          have passed : addToGroups names values row ((key, group) :: rest) =
              (key, group) :: addToGroups names values row rest := by
            rw [addToGroups, if_neg (by simp [same])]
          rcases later with ⟨before, found, old, after, rfl, isSame, added⟩ | ⟨others, added⟩
          · refine .inl ⟨(key, group) :: before, found, old, after, rfl, isSame, ?_⟩
            rw [passed, added, List.cons_append]
          · refine .inr ⟨?_, by rw [passed, added, List.cons_append]⟩
            rw [List.forall_mem_cons]
            exact ⟨same, others⟩

/-- Groups of some rows, each found by the key values of its first row. -/
structure Grouped (columns : List (String × Field.Resolution)) (rows : List Row)
    (groups : List (List Value × Group)) : Prop where
  parts : Partitions (Row.AgreeOn (columns.map (·.2))) rows (groups.map (·.2.rows))
  keyed : ∀ entry ∈ groups, ∃ first rest,
    entry.2.rows = first :: rest ∧ entry.1 = keyValues columns first ∧
      entry.2.key = keyRow columns first

theorem Grouped.add
    {columns : List (String × Field.Resolution)} {rows : List Row}
    {groups : List (List Value × Group)} (grouped : Grouped columns rows groups)
    (rowsWellFormed : ∀ row ∈ rows, row.WellFormed) {row : Row} (wellFormed : row.WellFormed) :
    Grouped columns (rows ++ [row])
      (addToGroups (columns.map (·.1)) (keyValues columns row) row groups) := by
  have equivalence := Row.agreeOn_equivalence (columns.map (·.2))
  rcases addToGroups_cases (columns.map (·.1)) (keyValues columns row) row groups with
    ⟨before, key, group, after, rfl, same, added⟩ | ⟨others, added⟩
  · rcases grouped.keyed (key, group) (by simp) with ⟨first, rest, startsWith, rfl, hasKey⟩
    dsimp only at startsWith hasKey
    have inGroup : first ∈ group.rows := by simp [startsWith]
    have agrees := (sameKeys_iff_agreeOn columns first row).1 same
    rw [added]
    constructor
    case parts =>
      have parts := grouped.parts
      rw [List.map_append, List.map_cons] at parts ⊢
      exact parts.join equivalence rowsWellFormed wellFormed inGroup agrees
    case keyed =>
      refine forall_mem_replace grouped.keyed ?_
      rintro -
      exact ⟨first, rest ++ [row], by simp [startsWith], rfl, hasKey⟩
  · rw [added, keyRow_eq]
    constructor
    case parts =>
      rw [List.map_append]
      refine grouped.parts.start (equivalence.refl wellFormed) ?_
      rw [List.forall_mem_map]
      intro entry member a inGroup agrees
      -- A row that agrees with one of a group agrees with its first, whose values were compared.
      rcases grouped.keyed entry member with ⟨first, rest, startsWith, foundBy, _⟩
      have inFirst : first ∈ entry.2.rows := by simp [startsWith]
      have isGroup : entry.2.rows ∈ groups.map (·.2.rows) := List.mem_map_of_mem member
      have firstAgrees : first.AgreeOn (columns.map (·.2)) a :=
        grouped.parts.together _ isGroup first inFirst a inGroup
      have firstWellFormed := rowsWellFormed first (grouped.parts.mem_items isGroup inFirst)
      have sameKey := (sameKeys_iff_agreeOn columns first row).2
        (equivalence.trans firstWellFormed firstAgrees agrees)
      rw [← foundBy, others entry member] at sameKey
      cases sameKey
    case keyed =>
      rw [List.forall_mem_append, List.forall_mem_singleton]
      exact ⟨grouped.keyed, row, [], rfl, rfl, rfl⟩

/-! ## All rows -/

/-- Reading rows one after the other groups all of them. -/
theorem grouped_foldl
    (columns : List (String × Field.Resolution)) {rows : List Row}
    (wellFormed : ∀ row ∈ rows, row.WellFormed) :
    Grouped columns rows
      (rows.foldl
        (fun groups row => addToGroups (columns.map (·.1)) (keyValues columns row) row groups)
        []) := by
  -- Rows are read from the left, so the invariant grows at the end of the list.
  induction rows using List.reverseRecOn with
  | nil => exact ⟨.nil _, nofun⟩
  | append_singleton rows row earlier =>
      rw [List.forall_mem_append, List.forall_mem_singleton] at wellFormed
      rw [List.foldl_concat]
      exact (earlier wellFormed.1).add wellFormed.1 wellFormed.2

theorem groupRows_partitions
    (columns : List (String × Field.Resolution)) {rows : List Row}
    (wellFormed : ∀ row ∈ rows, row.WellFormed) :
    Partitions (Row.AgreeOn (columns.map (·.2))) rows
      ((groupRows columns rows).map Group.rows) := by
  have grouped := grouped_foldl columns wellFormed
  rw [groupRows, List.map_map]
  exact grouped.parts

/-- The key of a group is made from its first row. -/
theorem groupRows_keyed
    (columns : List (String × Field.Resolution)) {rows : List Row}
    (wellFormed : ∀ row ∈ rows, row.WellFormed) {group : Group}
    (member : group ∈ groupRows columns rows) :
    ∃ first rest, group.rows = first :: rest ∧ group.key = keyRow columns first := by
  rcases List.mem_map.1 member with ⟨entry, isEntry, rfl⟩
  rcases (grouped_foldl columns wellFormed).keyed entry isEntry with
    ⟨first, rest, startsWith, _, hasKey⟩
  exact ⟨first, rest, startsWith, hasKey⟩

/-! ## The rows of groups -/

/-- What the metrics of an aggregation add to the key of a group. -/
theorem groupRow_eq_ok_iff
    {metrics : List MetricSpec} {sample : Row} {group : Group} {row : Row} :
    groupRow metrics sample group = .ok row ↔
      ∃ values,
        List.Forall₂ (fun metric value => metricValue metric sample group.rows = .ok value)
          metrics values ∧
        row = group.key.setAll ((metrics.map (·.target)).zip values) := by
  rcases group with ⟨key, rows⟩
  induction metrics generalizing key with
  | nil =>
      constructor
      · intro done
        cases done
        exact ⟨[], .nil, rfl⟩
      · rintro ⟨values, none, rfl⟩
        cases none
        rfl
  | cons metric rest later =>
      have first :
          groupRow (metric :: rest) sample ⟨key, rows⟩ =
            metricValue metric sample rows >>= fun value =>
              groupRow rest sample ⟨key.set metric.target value, rows⟩ := by
        simp only [groupRow, List.foldlM_cons, bind_assoc]
        rfl
      simp only [first, Outcome.bind_eq_ok_iff, later, List.forall₂_cons_left_iff]
      constructor
      · rintro ⟨value, computed, values, others, rfl⟩
        exact ⟨value :: values, ⟨value, values, computed, others, rfl⟩, rfl⟩
      · rintro ⟨_, ⟨value, values, computed, others, rfl⟩, rfl⟩
        exact ⟨value, computed, values, others, rfl⟩

theorem metricValue_count
    {metric : MetricSpec} (counts : metric.function = "count") (sample : Row) (rows : List Row) :
    metricValue metric sample rows = .ok (.ofNat rows.length) := by
  rw [metricValue, counts]
  rfl

/-- The names in the key of a group are the names of its columns. -/
theorem mem_keys_keyRow
    {name : String} (columns : List (String × Field.Resolution)) (row : Row) :
    name ∈ (keyRow columns row).keys ↔ name ∈ columns.map (·.1) := by
  refine (Row.mem_keys_setAll [] _).trans ?_
  simp [Row.keys]

/-- An aggregation gives a row for each group that waits for it, and for all rows together if none
does. -/
theorem run_aggregate
    {metrics : List MetricSpec} (state : State) {rows : List Row}
    (computed : List.Forall₂
      (fun group row => groupRow metrics (Records.sample state.rows) group = .ok row)
      (state.groups.getD [⟨[], state.rows⟩]) rows) :
    ∃ notes, (Step.aggregate metrics).run state = .ok (⟨rows, none⟩, notes) :=
  ⟨_, Outcome.bind_eq_ok_iff.2 ⟨rows, Outcome.mapM_eq_ok_iff.2 computed, rfl⟩⟩

/-- A count comes after the key of a group, unless the key has a column of its name. -/
theorem groupRow_count
    {metric : MetricSpec} (counts : metric.function = "count") {group : Group}
    (separate : metric.target ∉ group.key.keys) (sample : Row) :
    groupRow [metric] sample group =
      .ok (group.key ++ [(metric.target, .ofNat group.rows.length)]) := by
  refine groupRow_eq_ok_iff.2 ⟨[.ofNat group.rows.length], ?_, ?_⟩
  · exact .cons (metricValue_count counts sample group.rows) .nil
  · exact (Row.set_of_not_mem_keys separate _).symm

end StepResult

open StepResult

/--
A grouping partitions the rows by the values of its keys: its groups together are the rows, in the order
of their first rows and each in the order of the rows, and two rows are in one group exactly when they
give equal values for all keys. An aggregation that only counts then gives a row for each group, and the
counts add up to the number of rows.
-/
theorem Step.groupBy_partitions_rows
    (keys : List String) (state : State) (wellFormed : ∀ row ∈ state.rows, row.WellFormed) :
    let columns := keyColumns keys (Records.sample state.rows)
    ∃ groups notes,
      (Step.groupBy keys).run state = .ok ({ state with groups := some groups }, notes) ∧
      Partitions (Row.AgreeOn (columns.map (·.2))) state.rows (groups.map Group.rows) ∧
      (∀ (i j : Nat) (first second : Group), groups[i]? = some first → groups[j]? = some second →
        ∀ a ∈ first.rows, ∀ b ∈ second.rows, i = j ↔ Row.AgreeOn (columns.map (·.2)) a b) ∧
      ∀ metric : MetricSpec, metric.function = "count" → metric.target ∉ columns.map (·.1) →
        ∃ more,
          (Step.aggregate [metric]).run { state with groups := some groups } =
            .ok (⟨groups.map fun group =>
              group.key ++ [(metric.target, .ofNat group.rows.length)], none⟩, more) ∧
          (groups.map fun group => group.rows.length).sum = state.rows.length := by
  intro columns
  have parts := groupRows_partitions columns wellFormed
  refine ⟨groupRows columns state.rows, _, rfl, parts, ?_, ?_⟩
  · intro i j first second atI atJ a inFirst b inSecond
    have equivalence := Row.agreeOn_equivalence (columns.map (·.2))
    refine parts.same_group_iff equivalence wellFormed ?_ ?_ inFirst inSecond
    · rw [List.getElem?_map, atI, Option.map_some]
    · rw [List.getElem?_map, atJ, Option.map_some]
  · intro metric counts separate
    have eachGroup (group : Group) (member : group ∈ groupRows columns state.rows) :
        groupRow [metric] (Records.sample state.rows) group =
          .ok (group.key ++ [(metric.target, .ofNat group.rows.length)]) := by
      rcases groupRows_keyed columns wellFormed member with ⟨first, _, _, hasKey⟩
      refine groupRow_count counts ?_ _
      rwa [hasKey, mem_keys_keyRow]
    have computed :
        List.Forall₂
          (fun group row => groupRow [metric] (Records.sample state.rows) group = .ok row)
          (groupRows columns state.rows)
          ((groupRows columns state.rows).map fun group =>
            group.key ++ [(metric.target, .ofNat group.rows.length)]) :=
      List.forall₂_map_right_iff.2 (List.forall₂_same.2 eachGroup)
    rcases run_aggregate ⟨state.rows, some (groupRows columns state.rows)⟩ computed with
      ⟨more, ran⟩
    refine ⟨more, ran, ?_⟩
    rw [← parts.complete.length_eq, List.length_flatten, List.map_map]
    rfl

/-- A row without the key is in the group of the row whose key is null. -/
theorem Step.groupBy_partitions_missing_key :
    let rows : List Row :=
      [[("k", .ofNat 7), ("v", .ofNat 1)], [("v", .ofNat 2)], [("k", .null), ("v", .ofNat 3)],
        [("k", .ofNat 7), ("v", .ofNat 4)]]
    (∀ row ∈ rows, row.WellFormed) ∧
    ∃ groups notes,
      (Step.groupBy ["k"]).run ⟨rows, none⟩ = .ok (⟨rows, some groups⟩, notes) ∧
      Partitions (Row.AgreeOn [Field.resolve "k" (Records.sample rows)]) rows
        (groups.map Group.rows) ∧
      groups.map Group.rows =
        [[[("k", .ofNat 7), ("v", .ofNat 1)], [("k", .ofNat 7), ("v", .ofNat 4)]],
          [[("v", .ofNat 2)], [("k", .null), ("v", .ofNat 3)]]] := by
  intro rows
  have wellFormed : ∀ row ∈ rows, row.WellFormed := by
    simp [rows, Row.WellFormed, Value.ofNat, or_imp, forall_and]
  rcases Step.groupBy_partitions_rows ["k"] ⟨rows, none⟩ wellFormed with
    ⟨groups, notes, ran, parts, _⟩
  refine ⟨wellFormed, groups, notes, ran, parts, ?_⟩
  cases ran
  subst rows
  rfl

end RowPlan
