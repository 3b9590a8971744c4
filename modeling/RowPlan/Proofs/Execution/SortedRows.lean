import RowPlan.Execution.Step
import RowPlan.Proofs.Pointer
import RowPlan.Proofs.Sorting.Stable

/-!
# Sorted rows

A sort step moves the rows that have a number, a text or a truth value in its field to the front and
leaves the others behind them as they were. In front the rows are in stable order, upwards or
downwards, unless there is a NaN among the values.

A NaN is a number that is not below or above any other, so what it does to the numbers around it
depends on which of them are compared. The rows apart from those with NaN come out as if they had been
sorted alone exactly when they come out in order.
-/

namespace RowPlan

/-- Whether a value that may be absent can be sorted by: a number, a text or a truth value. -/
def SortKey.isSortable : Option Value → Bool
  | some (.num _) => true
  | some (.str _) => true
  | some (.bool _) => true
  | _ => false

namespace StepResult

/-! ## Rows with keys -/

section Keyed

/-- The key of a row in a resolved field, if its value can be sorted by. -/
def sortKey (resolution : Field.Resolution) (row : Row) : Option SortKey :=
  SortKey.ofValue? (Field.read row resolution)

/-- Whether the value of a row in a resolved field is NaN. -/
def hasNaN (resolution : Field.Resolution) (row : Row) : Bool :=
  (sortKey resolution row).any SortKey.isNaN

/-- The rows that can be sorted by a resolved field, with their keys. -/
def keyedRows (resolution : Field.Resolution) (rows : List Row) : List (SortKey × Row) :=
  rows.filterMap fun row => (sortKey resolution row).map (·, row)

/-- The rows that cannot be sorted by a resolved field. -/
def rowsBehind (resolution : Field.Resolution) (rows : List Row) : List Row :=
  rows.filter fun row => !SortKey.isSortable (Field.read row resolution)

variable {resolution : Field.Resolution}

theorem isSome_sortKey (row : Row) :
    (sortKey resolution row).isSome = SortKey.isSortable (Field.read row resolution) := by
  unfold sortKey
  cases Field.read row resolution with
  | none => rfl
  | some value => cases value <;> rfl

theorem mem_keyedRows_iff {rows : List Row} {pair : SortKey × Row} :
    pair ∈ keyedRows resolution rows ↔
      pair.2 ∈ rows ∧ sortKey resolution pair.2 = some pair.1 := by
  simp only [keyedRows, List.mem_filterMap, Option.map_eq_some_iff]
  constructor
  · rintro ⟨row, member, key, found, rfl⟩
    exact ⟨member, found⟩
  · rintro ⟨member, found⟩
    exact ⟨pair.2, member, pair.1, found, rfl⟩

theorem sortKey_of_mem_byKey
    {descending : Bool} {rows : List Row} {pair : SortKey × Row}
    (member : pair ∈ Sorting.byKey descending (keyedRows resolution rows)) :
    sortKey resolution pair.2 = some pair.1 :=
  (mem_keyedRows_iff.1 ((Sorting.byKey_perm descending _).mem_iff.1 member)).2

theorem sortKey_of_mem_rowsBehind
    {rows : List Row} {row : Row} (member : row ∈ rowsBehind resolution rows) :
    sortKey resolution row = none := by
  have notSortable := (List.mem_filter.1 member).2
  rwa [← isSome_sortKey, Bool.not_eq_true', Option.isSome_eq_false_iff,
    Option.isNone_iff_eq_none] at notSortable

theorem map_snd_keyedRows (rows : List Row) :
    (keyedRows resolution rows).map Prod.snd =
      rows.filter fun row => SortKey.isSortable (Field.read row resolution) := by
  simp only [← isSome_sortKey]
  rw [keyedRows, List.map_filterMap, ← List.filterMap_eq_filter]
  refine List.filterMap_congr fun row _ => ?_
  cases found : sortKey resolution row <;> simp [Option.guard, found]

/-- Rows that are taken from pairs with their own keys give back the pairs. -/
theorem keyedRows_map_snd
    {pairs : List (SortKey × Row)}
    (own : ∀ pair ∈ pairs, sortKey resolution pair.2 = some pair.1) :
    keyedRows resolution (pairs.map Prod.snd) = pairs := by
  rw [keyedRows, List.filterMap_map]
  calc
    _ = pairs.filterMap some := List.filterMap_congr fun pair member => by simp [own pair member]
    _ = pairs := List.filterMap_some

theorem filter_keyedRows (rows : List Row) :
    keyedRows resolution (rows.filter fun row => !hasNaN resolution row) =
      (keyedRows resolution rows).filter Sorting.known := by
  rw [keyedRows, keyedRows, List.filterMap_filter, List.filter_filterMap]
  refine List.filterMap_congr fun row _ => ?_
  unfold hasNaN
  cases found : sortKey resolution row with
  | none => rfl
  | some key =>
      cases nan : key.isNaN <;> simp [Sorting.known, nan, Option.filter]

/-- Sorting rows sorts them with their keys, and leaves the rows without keys behind. -/
theorem sortRows_eq (descending : Bool) (rows : List Row) :
    sortRows resolution descending rows =
      (Sorting.byKey descending (keyedRows resolution rows)).map Prod.snd ++
        rowsBehind resolution rows := by
  simp only [rowsBehind, ← isSome_sortKey]
  unfold sortRows
  dsimp only
  rw [List.filterMap_map, List.filterMap_map, ← List.filterMap_eq_filter]
  refine congrArg _ (List.filterMap_congr fun row _ => ?_)
  change (if (sortKey resolution row).isNone then some row else none) = _
  cases found : sortKey resolution row <;> simp [Option.guard, found]

/-- The keys of sorted rows are their sorted keys. -/
theorem keyedRows_front (descending : Bool) (rows : List Row) :
    keyedRows resolution ((Sorting.byKey descending (keyedRows resolution rows)).map Prod.snd) =
      Sorting.byKey descending (keyedRows resolution rows) :=
  keyedRows_map_snd fun _ => sortKey_of_mem_byKey

theorem sortRows_perm (descending : Bool) (rows : List Row) :
    (sortRows resolution descending rows).Perm rows := by
  rw [sortRows_eq]
  calc
    List.Perm _ ((keyedRows resolution rows).map Prod.snd ++ _) :=
      ((Sorting.byKey_perm descending _).map _).append_right _
    List.Perm _ rows := by
      rw [map_snd_keyedRows]
      exact List.filter_append_perm _ rows

/-! ## Rows with NaN -/

theorem keyedRows_sortRows (descending : Bool) (rows : List Row) :
    keyedRows resolution (sortRows resolution descending rows) =
      Sorting.byKey descending (keyedRows resolution rows) := by
  have behind : keyedRows resolution (rowsBehind resolution rows) = [] := by
    refine List.filterMap_eq_nil_iff.2 fun row member => ?_
    rw [sortKey_of_mem_rowsBehind member]
    rfl
  rw [sortRows_eq, keyedRows, List.filterMap_append]
  change keyedRows resolution _ ++ keyedRows resolution _ = _
  rw [behind, keyedRows_front, List.append_nil]

theorem hasNaN_of_mem_rowsBehind
    {rows : List Row} {row : Row} (member : row ∈ rowsBehind resolution rows) :
    hasNaN resolution row = false := by
  rw [hasNaN, sortKey_of_mem_rowsBehind member]
  rfl

theorem rowsBehind_filter (rows : List Row) :
    rowsBehind resolution (rows.filter fun row => !hasNaN resolution row) =
      rowsBehind resolution rows := by
  rw [rowsBehind, List.filter_comm]
  exact List.filter_eq_self.2 fun row member => by rw [hasNaN_of_mem_rowsBehind member]; rfl

/-- Rows that cannot be sorted stay when those with NaN are taken away. -/
theorem filter_sortRows (descending : Bool) (rows : List Row) :
    (sortRows resolution descending rows).filter (fun row => !hasNaN resolution row) =
      ((Sorting.byKey descending (keyedRows resolution rows)).filter Sorting.known).map Prod.snd ++
        rowsBehind resolution rows := by
  rw [sortRows_eq, List.filter_append, List.filter_map]
  congr 1
  · refine congrArg _ (List.filter_congr fun pair member => ?_)
    simp [hasNaN, sortKey_of_mem_byKey member, Sorting.known]
  · exact List.filter_eq_self.2 fun row member => by rw [hasNaN_of_mem_rowsBehind member]; rfl

/-- The rows apart from those with NaN come out as if they had been sorted alone exactly when they come
out in order. -/
theorem filter_sortRows_eq_iff
    (resolution : Field.Resolution) (descending : Bool) (rows : List Row) :
    (sortRows resolution descending rows).filter (fun row => !hasNaN resolution row) =
        sortRows resolution descending (rows.filter fun row => !hasNaN resolution row) ↔
      (keyedRows resolution
        ((sortRows resolution descending rows).filter fun row => !hasNaN resolution row)).Pairwise
          fun first second => ¬ SortKey.Wrong descending first.1 second.1 := by
  rw [filter_keyedRows, keyedRows_sortRows, ← Sorting.filter_byKey_eq_iff]
  constructor
  · intro same
    have keys := congrArg (keyedRows resolution) same
    rwa [filter_keyedRows, keyedRows_sortRows, keyedRows_sortRows, filter_keyedRows] at keys
  · intro same
    rw [filter_sortRows, sortRows_eq, filter_keyedRows, rowsBehind_filter, same]

end Keyed

/-- A sort by a field that the first row has under its exact name sorts by this name. -/
theorem sort_of_split
    {by_ name : String} {inside : List String} (named : Pointer.split by_ = name :: inside)
    (direction : String) {rows : List Row} (given : ∀ row ∈ rows, name ∈ row.keys)
    (groups : Option (List Group)) :
    sort by_ direction ⟨rows, groups⟩ =
      .ok (⟨sortRows ⟨name, name, Pointer.join (name :: inside), none⟩ (direction == "desc") rows,
        groups⟩, []) := by
  cases rows with
  | nil =>
      rw [(sortRows_perm _ []).eq_nil]
      rfl
  | cons first rest =>
      have resolved :
          Field.resolve by_ (Records.sample (first :: rest)) =
            ⟨name, name, Pointer.join (name :: inside), none⟩ :=
        Field.resolve_of_split named (given first List.mem_cons_self)
      rw [sort, if_neg (by simp)]
      dsimp only
      rw [resolved]
      rfl

end StepResult

open StepResult

/-! ## Sort steps -/

/--
A sort step loses no rows: those that can be sorted by the field come first, the others follow as they
were. Without NaN the rows in front are sorted stably.
-/
theorem Step.sort_rows
    (by_ direction : String) (first : Row) (rest : List Row) (groups : Option (List Group)) :
    let rows := first :: rest
    let resolution := Field.resolve by_ first
    let sortable := fun row => SortKey.isSortable (Field.read row resolution)
    ∃ front,
      (Step.sort by_ direction).run ⟨rows, groups⟩ =
          .ok (⟨front ++ rows.filter fun row => !sortable row, groups⟩, resolution.note.toList) ∧
        (front ++ rows.filter fun row => !sortable row).Perm rows ∧
        (∀ row ∈ front, sortable row = true) ∧
        ((∀ row ∈ rows, hasNaN resolution row = false) →
          Sorting.StablySorted (direction == "desc") (keyedRows resolution rows)
            (keyedRows resolution front)) := by
  intro rows resolution sortable
  refine ⟨(Sorting.byKey (direction == "desc") (keyedRows resolution rows)).map Prod.snd,
    ?_, ?_, ?_, ?_⟩
  · change StepResult.sort by_ direction ⟨rows, groups⟩ =
      .ok (⟨_ ++ rowsBehind resolution rows, groups⟩, _)
    rw [← sortRows_eq]
    rfl
  · change (_ ++ rowsBehind resolution rows).Perm rows
    rw [← sortRows_eq]
    exact sortRows_perm _ rows
  · intro row member
    have inFront :=
      ((Sorting.byKey_perm (direction == "desc") (keyedRows resolution rows)).map
        Prod.snd).mem_iff.1 member
    rw [map_snd_keyedRows] at inFront
    exact (List.mem_filter.1 inFront).2
  · intro noNaN
    rw [keyedRows_front]
    refine Sorting.stablySorted_byKey fun pair member => ?_
    rcases mem_keyedRows_iff.1 member with ⟨isRow, own⟩
    have known := noNaN pair.2 isRow
    rw [hasNaN, own] at known
    simpa [Sorting.known] using known

/-- Values of all kinds, downwards, with an integer and a double that are equal. -/
theorem Step.sort_rows_mixed :
    let one := Value.num (.float (Decimal.ofMagnitudeBits false (1023 <<< 52)))
    let rows : List Row :=
      [[("v", .ofNat 1)], [("v", .str "b")], [("v", .null)], [("v", one)], [("v", .bool false)],
        [("w", .ofNat 9)], [("v", .arr [])], [("v", .ofNat 2)]]
    let resolution := Field.resolve "v" (Records.sample rows)
    ∃ front,
      (Step.sort "v" "desc").run ⟨rows, none⟩ =
          .ok (⟨front ++ [[("v", .null)], [("w", .ofNat 9)], [("v", .arr [])]], none⟩, []) ∧
        Sorting.StablySorted true
          [(.number (.int 1), [("v", .ofNat 1)]), (.text "b", [("v", .str "b")]),
            (.number (.float (Decimal.ofMagnitudeBits false (1023 <<< 52))), [("v", one)]),
            (.truth false, [("v", .bool false)]), (.number (.int 2), [("v", .ofNat 2)])]
          (keyedRows resolution front) := by
  intro one rows resolution
  have noNaN : ∀ row ∈ rows, hasNaN resolution row = false := by
    have each : (rows.all fun row => !hasNaN resolution row) = true := by
      subst rows resolution one
      rfl
    intro row member
    simpa using List.all_eq_true.1 each row member
  rcases Step.sort_rows "v" "desc" [("v", .ofNat 1)] rows.tail none with
    ⟨front, ran, _, _, stably⟩
  have sorted := stably noNaN
  subst rows resolution one
  exact ⟨front, ran, sorted⟩

/--
Taking the rows with NaN out of a sorted list leaves the list of the other rows sorted alone exactly
when these come out in order. They do where no NaN stands between two numbers that are in the wrong
order.
-/
theorem Step.sort_apart_from_nan
    {by_ name : String} {inside : List String} (named : Pointer.split by_ = name :: inside)
    (direction : String) {rows : List Row} (given : ∀ row ∈ rows, name ∈ row.keys)
    (groups : Option (List Group)) :
    let resolution : Field.Resolution := ⟨name, name, Pointer.join (name :: inside), none⟩
    let others := rows.filter fun row => !hasNaN resolution row
    ∃ sorted alone,
      (Step.sort by_ direction).run ⟨rows, groups⟩ = .ok (⟨sorted, groups⟩, []) ∧
        (Step.sort by_ direction).run ⟨others, groups⟩ = .ok (⟨alone, groups⟩, []) ∧
        ((sorted.filter fun row => !hasNaN resolution row) = alone ↔
          (keyedRows resolution (sorted.filter fun row => !hasNaN resolution row)).Pairwise
            fun first second => ¬ SortKey.Wrong (direction == "desc") first.1 second.1) ∧
        (Sorting.Unparted (direction == "desc") (keyedRows resolution rows) →
          (sorted.filter fun row => !hasNaN resolution row) = alone) := by
  intro resolution others
  have givenOthers : ∀ row ∈ others, name ∈ row.keys := fun row member =>
    given row (List.mem_filter.1 member).1
  have inOrder := filter_sortRows_eq_iff resolution (direction == "desc") rows
  refine ⟨_, _, sort_of_split named direction given groups,
    sort_of_split named direction givenOthers groups, inOrder, fun unparted => inOrder.2 ?_⟩
  rw [filter_keyedRows, keyedRows_sortRows]
  exact (Sorting.ordered_byKey unparted).filter Sorting.known

/-- Texts may change places around a NaN, and numbers may stay. -/
theorem Step.sort_apart_from_nan_in_place :
    let nan := Value.num (.float Decimal.notANumber)
    let rows : List Row :=
      [[("v", .str "b")], [("v", .ofNat 1)], [("v", nan)], [("v", .ofNat 2)], [("v", .str "a")]]
    let resolution : Field.Resolution := ⟨"v", "v", "/v", none⟩
    let others := rows.filter fun row => !hasNaN resolution row
    ∃ sorted alone,
      (Step.sort "v" "asc").run ⟨rows, none⟩ = .ok (⟨sorted, none⟩, []) ∧
        (Step.sort "v" "asc").run ⟨others, none⟩ = .ok (⟨alone, none⟩, []) ∧
        (sorted.filter fun row => !hasNaN resolution row) = alone := by
  intro nan rows resolution others
  have given : ∀ row ∈ rows, "v" ∈ row.keys := by simp [rows, Row.keys]
  have named : Pointer.split "v" = ["v"] := rfl
  rcases Step.sort_apart_from_nan named "asc" given none with
    ⟨sorted, alone, ran, ranAlone, _, same⟩
  refine ⟨sorted, alone, ran, ranAlone, same ?_⟩
  have keys :
      keyedRows resolution rows =
        [(.text "b", [("v", .str "b")]), (.number (.int 1), [("v", .ofNat 1)]),
          (.number (.float Decimal.notANumber), [("v", nan)]), (.number (.int 2), [("v", .ofNat 2)]),
          (.text "a", [("v", .str "a")])] := by
    subst rows resolution
    rfl
  have rises : ¬ SortKey.Wrong false (.number (.int 1)) (.number (.int 2)) := by
    rw [SortKey.not_wrong_upwards_iff]
    decide
  change Sorting.Unparted false (keyedRows resolution rows)
  rw [keys, Sorting.Unparted]
  simp [List.triplewise_cons, rises]

/-- A NaN between two numbers in the wrong order leaves them there. -/
theorem Step.sort_stays_around_nan :
    let nan := Value.num (.float Decimal.notANumber)
    let rows : List Row := [[("v", .ofNat 2)], [("v", nan)], [("v", .ofNat 1)]]
    let resolution : Field.Resolution := ⟨"v", "v", "/v", none⟩
    let others := rows.filter fun row => !hasNaN resolution row
    (∀ row ∈ rows, "v" ∈ row.keys) ∧
      others = [[("v", .ofNat 2)], [("v", .ofNat 1)]] ∧
      ∃ alone,
        (Step.sort "v" "asc").run ⟨rows, none⟩ = .ok (⟨rows, none⟩, []) ∧
          (Step.sort "v" "asc").run ⟨others, none⟩ = .ok (⟨alone, none⟩, []) ∧
          others ≠ alone := by
  intro nan rows resolution others
  have given : ∀ row ∈ rows, "v" ∈ row.keys := by simp [rows, Row.keys]
  have givenOthers : ∀ row ∈ others, "v" ∈ row.keys := fun row member =>
    given row (List.mem_filter.1 member).1
  have named : Pointer.split "v" = ["v"] := rfl
  have keys :
      keyedRows resolution rows =
        [(.number (.int 2), [("v", .ofNat 2)]), (.number (.float Decimal.notANumber), [("v", nan)]),
          (.number (.int 1), [("v", .ofNat 1)])] := by
    subst rows resolution
    rfl
  have kept : others = [[("v", .ofNat 2)], [("v", .ofNat 1)]] := by
    subst others rows resolution
    rfl
  have stays : sortRows resolution false rows = rows := by
    have noneBelow :
        List.IsChain (fun first second => ¬ SortKey.Wrong false first.1 second.1)
          (keyedRows resolution rows) := by
      simp only [SortKey.not_wrong_upwards_iff, keys]
      refine .cons_cons ?_ (.cons_cons ?_ (.singleton _))
      · exact SortKey.nan_not_lt_number rfl _
      · exact SortKey.not_lt_nan rfl
    rw [sortRows_eq, Sorting.byKey_eq_self noneBelow, keys]
    subst rows resolution
    rfl
  refine ⟨given, kept, _, ?_, sort_of_split named "asc" givenOthers none, ?_⟩
  · have ran := sort_of_split named "asc" given none
    change StepResult.sort "v" "asc" ⟨rows, none⟩ =
      (.ok (⟨sortRows resolution false rows, none⟩, []) : StepResult) at ran
    rwa [stays] at ran
  · intro same
    have inOrder := (filter_sortRows_eq_iff resolution false rows).1
    rw [stays] at inOrder
    have inOrder := inOrder same
    have keysKept :
        keyedRows resolution others =
          [(.number (.int 2), [("v", .ofNat 2)]), (.number (.int 1), [("v", .ofNat 1)])] := by
      rw [kept]
      subst others rows resolution
      rfl
    change (keyedRows resolution others).Pairwise _ at inOrder
    rw [keysKept] at inOrder
    have notBelow := (List.pairwise_cons.1 inOrder).1 _ List.mem_cons_self
    rw [SortKey.not_wrong_upwards_iff] at notBelow
    exact absurd notBelow (by decide)

end RowPlan
